import DriveBridge.Value.Basic

/-!
Equality of values as a key of a table or a member of a set is compared. Numbers are equal by
value across booleans, integers and floats; NaN is equal to nothing; tables are equal
whatever their order.
-/

namespace DriveBridge.Value

def sameNumber (v w : Value) : Bool :=
  match v, w with
  | float x, float y => x.same y
  | float x, w => w.integer?.any x.isInteger
  | v, float y => v.integer?.any y.isInteger
  | v, w => v.integer?.isSome && v.integer? == w.integer?

mutual

def same : Value → Value → Bool
  | null, null => true
  | text s, text t => s == t
  | octets a, octets b => a == b
  | list xs, list ys => sameItems xs ys
  | tuple xs, tuple ys => sameItems xs ys
  | table es, table fs => es.length == fs.length && within es fs
  | location p, location q => p.same q
  | client p, client q => p == q
  | host p, host q => p == q
  | unit u, unit v => u == v
  | v, w => sameNumber v w

def sameItems : List Value → List Value → Bool
  | [], [] => true
  | x :: xs, y :: ys => same x y && sameItems xs ys
  | _, _ => false

def within : List (Value × Value) → List (Value × Value) → Bool
  | [], _ => true
  | (k, v) :: rest, fs => (fs.any fun (l, w) => same k l && same v w) && within rest fs

end

/-- A value compared with itself: only a bare NaN differs from itself. -/
def sameItself : Value → Bool
  | float .nan => false
  | _ => true

def comparisons (vs : List Value) : List (List Bool) :=
  vs.zipIdx.map fun (v, i) =>
    vs.zipIdx.map fun (w, j) => if i = j then sameItself v else same v w

/-- Lists and tables can change, so they are no keys; nor is a tuple that holds one. -/
def isKey : Value → Bool
  | list _ => false
  | table _ => false
  | tuple items => itemsAreKeys items
  | _ => true
where
  itemsAreKeys : List Value → Bool
    | [] => true
    | x :: xs => isKey x && itemsAreKeys xs

mutual

def isSound : Value → Bool
  | list items => itemsAreSound items
  | tuple items => itemsAreSound items
  | table es => entriesAreSound es
  | _ => true

def itemsAreSound : List Value → Bool
  | [] => true
  | x :: xs => isSound x && itemsAreSound xs

def entriesAreSound : List (Value × Value) → Bool
  | [] => true
  | (k, v) :: es => isKey k && isSound v && entriesAreSound es

end

def put (key value : Value) : List (Value × Value) → List (Value × Value)
  | [] => [(key, value)]
  | (k, v) :: rest => if same k key then (k, value) :: rest else (k, v) :: put key value rest

def tableOf (pairs : List (Value × Value)) : List (Value × Value) :=
  pairs.foldl (fun entries (k, v) => put k v entries) []

def members? (vs : List Value) : Option (List Value) :=
  if vs.all isKey then
    some (vs.foldl (fun seen v => if seen.any (same · v) then seen else seen ++ [v]) [])
  else none

end DriveBridge.Value
