import DriveBridge.Text.Basic

/-!
POSIX paths. A path as it is written has empty names and single dots in it, and a slash at its end
asks for a directory. In normal form it has neither; two slashes at the front are kept apart from
one, and three or more count as one.
-/

namespace DriveBridge

open CodePoint

inductive Anchor
  | relative
  | root
  | doubleRoot
  deriving DecidableEq

structure Location where
  anchor : Anchor
  names : List Text
  deriving DecidableEq

namespace Anchor

def ofText (t : Text) : Anchor :=
  match (t.takeWhile (· == slash)).length with
  | 0 => relative
  | 2 => doubleRoot
  | _ => root

def text : Anchor → Text
  | relative => []
  | root => [slash]
  | doubleRoot => [slash, slash]

end Anchor

namespace Location

def isSlash (c : CodePoint) : Bool := c == slash

def writtenNames (t : Text) : List Text := Text.split isSlash t

def isIdle (name : Text) : Bool := name == [] || name == [dot]

def directoryOf (t : Text) : Text :=
  Text.dropBackWhile isSlash (Text.dropBackWhile (!isSlash ·) t)

def above (t : Text) : Text := directoryOf (Text.dropBackWhile isSlash t)

def lastWritten (t : Text) : Text :=
  Text.takeBackWhile (!isSlash ·) (Text.dropBackWhile isSlash t)

theorem length_dropWhile_dropWhile_lt (p : CodePoint → Bool) (t : Text) (ht : t ≠ []) :
    ((t.dropWhile p).dropWhile (!p ·)).length < t.length := by
  cases t with
  | nil => exact absurd rfl ht
  | cons c t =>
    rw [List.dropWhile_cons]
    split
    · refine Nat.lt_succ_of_le (Nat.le_trans ?_ (List.dropWhile_sublist p).length_le)
      exact (List.dropWhile_sublist _).length_le
    · rename_i hc
      rw [List.dropWhile_cons_of_pos (by simpa using hc)]
      exact Nat.lt_succ_of_le (List.dropWhile_sublist _).length_le

theorem length_above_lt (t : Text) (ht : t ≠ []) : (above t).length < t.length := by
  simp only [above, directoryOf, Text.dropBackWhile, List.reverse_reverse, List.length_reverse]
  refine Nat.lt_of_le_of_lt (List.dropWhile_sublist _).length_le ?_
  simpa using length_dropWhile_dropWhile_lt isSlash t.reverse (by simpa using ht)

def ofText (t : Text) : Location := ⟨.ofText t, (writtenNames t).filter (!isIdle ·)⟩

def text (p : Location) : Text :=
  if p.anchor = .relative ∧ p.names = [] then [dot]
  else p.anchor.text ++ Text.join slash p.names

def parent (p : Location) : Location := { p with names := p.names.dropLast }

def fileName (p : Location) : Text := p.names.getLastD []

def append (p q : Location) : Location :=
  if q.anchor = .relative then { p with names := p.names ++ q.names } else q

/-- A name cut before its last dot. A dot at either end of the name starts no suffix. -/
def cutSuffix (name : Text) : Text × Text :=
  let tail := Text.takeBackWhile (· != dot) name
  let stem := name.take (name.length - tail.length - 1)
  if dot ∈ name ∧ stem ≠ [] ∧ tail ≠ [] then (stem, dot :: tail) else (name, [])

def insertBeforeSuffix (p : Location) (mark : Text) : Location :=
  let (stem, suffix) := cutSuffix p.fileName
  { p with names := p.names.dropLast ++ [stem ++ mark ++ suffix] }

end Location

end DriveBridge
