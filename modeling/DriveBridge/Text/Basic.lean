/-!
Text is a list of Unicode code points. Surrogate code points are allowed: a name taken from
malformed UTF-16 has a text too, and two adjacent halves stay two code points.
-/

namespace DriveBridge

abbrev CodePoint := Fin 0x110000

abbrev Text := List CodePoint

-- Named here, so that literals and membership mean the same term in every module.
instance instNeZeroCodePoints : @NeZero Nat Zero.ofOfNat0 0x110000 := ⟨by decide⟩

instance instLawfulBEqCodePoint : LawfulBEq CodePoint := inferInstance

instance instLawfulBEqText : LawfulBEq Text := inferInstance

namespace CodePoint

theorem toNat_lt (c : Char) : c.toNat < 0x110000 := by
  rcases c.valid with h | ⟨_, h⟩
  · exact Nat.lt_trans h (by decide)
  · exact h

def ofChar (c : Char) : CodePoint := ⟨c.toNat, toNat_lt c⟩

instance : Coe Char CodePoint := ⟨ofChar⟩

abbrev slash : CodePoint := 0x2F
abbrev backslash : CodePoint := 0x5C
abbrev newline : CodePoint := 0x0A
abbrev dot : CodePoint := 0x2E

def isSurrogate (c : CodePoint) : Bool := 0xD800 ≤ c.val && c.val ≤ 0xDFFF

def isSeparator (c : CodePoint) : Bool := c == slash || c == backslash

def isAsciiLetter (c : CodePoint) : Bool :=
  (0x41 ≤ c.val && c.val ≤ 0x5A) || (0x61 ≤ c.val && c.val ≤ 0x7A)

def isIn (ranges : List (Nat × Nat)) (c : CodePoint) : Bool :=
  ranges.any fun (first, last) => first ≤ c.val && c.val ≤ last

def isBlank (c : CodePoint) : Bool :=
  isIn [(0x09, 0x0D), (0x1C, 0x20), (0x85, 0x85), (0xA0, 0xA0), (0x1680, 0x1680), (0x2000, 0x200A),
    (0x2028, 0x2029), (0x202F, 0x202F), (0x205F, 0x205F), (0x3000, 0x3000)] c

end CodePoint

namespace Text

open CodePoint

def ofString (s : String) : Text := s.toList.map CodePoint.ofChar

instance : Coe String Text := ⟨ofString⟩

def replace (old new : CodePoint) (t : Text) : Text :=
  t.map fun c => if c = old then new else c

def dropBackWhile (p : CodePoint → Bool) (t : Text) : Text :=
  (t.reverse.dropWhile p).reverse

def takeBackWhile (p : CodePoint → Bool) (t : Text) : Text :=
  (t.reverse.takeWhile p).reverse

/-- The pieces between the code points that satisfy `p`. Empty pieces are kept, so there is always
one piece more than there are such code points. -/
def split (p : CodePoint → Bool) (t : Text) : List Text :=
  t.foldr (fun c pieces => if p c then [] :: pieces else pieces.modifyHead (c :: ·)) [[]]

theorem split_nil (p : CodePoint → Bool) : split p [] = [[]] := rfl

theorem split_cons (p : CodePoint → Bool) (c : CodePoint) (t : Text) :
    split p (c :: t) = if p c then [] :: split p t else (split p t).modifyHead (c :: ·) := rfl

theorem split_ne_nil (p : CodePoint → Bool) (t : Text) : split p t ≠ [] := by
  induction t with
  | nil => simp [split_nil]
  | cons c t ih =>
    rw [split_cons]
    split <;> simp [ih]

def isUpTo (s t : Text) : Bool := !t.lex s fun a b => a.val < b.val

def join (separator : CodePoint) (pieces : List Text) : Text :=
  List.intercalate [separator] pieces

def trimWhile (p : CodePoint → Bool) (t : Text) : Text :=
  dropBackWhile p (t.dropWhile p)

def trim (t : Text) : Text := trimWhile CodePoint.isBlank t

end Text

end DriveBridge
