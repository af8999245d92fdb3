import DriveBridge.Numeral.Integer
import DriveBridge.Text.Quoted

/-!
UTF-8 over all code points: surrogates are written in three octets like their neighbours, and
strict UTF-8 refuses them. `first?` reads back one code point and refuses overlong forms, stray
continuation octets and what lies beyond the last code point.
-/

namespace DriveBridge

structure Unencodable where
  position : Nat
  run : Text
  deriving DecidableEq

namespace Unencodable

def find? (isRefused : CodePoint → Bool) (t : Text) : Option Unencodable :=
  (t.findIdx? isRefused).map fun i => ⟨i, (t.drop i).takeWhile CodePoint.isSurrogate⟩

def subject (e : Unencodable) : Text :=
  match e.run with
  | [c] =>
    Text.ofString "character '" ++ Quoted.escapeNumber c.val ++ Text.ofString "' in position " ++
      Integer.digits e.position
  | run =>
    Text.ofString "characters in position " ++ Integer.digits e.position ++ Text.ofString "-" ++
      Integer.digits (e.position + run.length - 1)

def message (e : Unencodable) : Text :=
  Text.ofString "'utf-8' codec can't encode " ++ e.subject ++
    Text.ofString ": surrogates not allowed"

end Unencodable

namespace Utf8

def continuation (n : Nat) : UInt8 := UInt8.ofNat (0x80 + n % 0x40)

def octets (c : CodePoint) : List UInt8 :=
  let n := c.val
  if n < 0x80 then [UInt8.ofNat n]
  else if n < 0x800 then [UInt8.ofNat (0xC0 + n / 0x40), continuation n]
  else if n < 0x10000 then
    [UInt8.ofNat (0xE0 + n / 0x1000), continuation (n / 0x40), continuation n]
  else
    [UInt8.ofNat (0xF0 + n / 0x40000), continuation (n / 0x1000), continuation (n / 0x40),
      continuation n]

def encode (t : Text) : List UInt8 := t.flatMap octets

def encodeStrict (t : Text) : Except Unencodable (List UInt8) :=
  match Unencodable.find? CodePoint.isSurrogate t with
  | some cause => .error cause
  | none => .ok (encode t)

/-- How a lead octet announces its code point: the mark to take off, the least code point that
needs so many octets, and the number of octets that follow. -/
structure Form where
  mark : Nat
  least : Nat
  more : Nat

def form? (lead : UInt8) : Option Form :=
  let n := lead.toNat
  if n < 0x80 then some ⟨0, 0, 0⟩
  else if n < 0xC0 then none
  else if n < 0xE0 then some ⟨0xC0, 0x80, 1⟩
  else if n < 0xF0 then some ⟨0xE0, 0x800, 2⟩
  else if n < 0xF8 then some ⟨0xF0, 0x10000, 3⟩
  else none

def bits? (b : UInt8) : Option Nat :=
  if 0x80 ≤ b.toNat ∧ b.toNat < 0xC0 then some (b.toNat - 0x80) else none

def point? (form : Form) (lead : UInt8) (bits : List Nat) : Option CodePoint :=
  let n := bits.foldl (fun high low => high * 0x40 + low) (lead.toNat - form.mark)
  if h : n < 0x110000 then
    if bits.length = form.more ∧ form.least ≤ n then some ⟨n, h⟩ else none
  else none

def first? : List UInt8 → Option (CodePoint × List UInt8)
  | [] => none
  | lead :: rest => do
    let form ← form? lead
    let bits ← (rest.take form.more).mapM bits?
    let c ← point? form lead bits
    return (c, rest.drop form.more)

theorem first?_length {octets rest : List UInt8} {c : CodePoint}
    (h : first? octets = some (c, rest)) : rest.length < octets.length := by
  cases octets with
  | nil => simp [first?] at h
  | cons lead tail =>
    simp only [first?, Option.bind_eq_bind, Option.bind_eq_some_iff, Option.pure_def,
      Option.some.injEq, Prod.mk.injEq] at h
    obtain ⟨form, _, _, _, _, _, _, rfl⟩ := h
    simp only [List.length_drop, List.length_cons]
    omega

def decode? (octets : List UInt8) : Option Text :=
  match h : first? octets with
  | some (c, rest) =>
    have := first?_length h
    (decode? rest).map (c :: ·)
  | none => if octets = [] then some [] else none
termination_by octets.length
decreasing_by exact this

/-- Reads any octets. One that belongs to no code point, or to a surrogate, is shown on its own. -/
def decodeOr (single : UInt8 → CodePoint) (octets : List UInt8) : Text :=
  match octets with
  | [] => []
  | a :: tail =>
    match h : first? (a :: tail) with
    | some (c, rest) =>
      have := first?_length h
      if c.isSurrogate then single a :: decodeOr single tail else c :: decodeOr single rest
    | none => single a :: decodeOr single tail
termination_by octets.length
decreasing_by
  · exact Nat.lt_succ_self _
  · exact this
  · exact Nat.lt_succ_self _

abbrev replacement : CodePoint := 0xFFFD

def decodeLossy (octets : List UInt8) : Text := decodeOr (fun _ => replacement) octets

end Utf8

end DriveBridge

/-!
Names of files and of variables as the operating system takes them: in UTF-8, except that the
surrogates from U+DC80 to U+DCFF stand for single octets that are no UTF-8. A text with any other
surrogate is no such name. Two texts can be one name, if octets that stand alone in one of them
make up code points of the other.
-/

namespace DriveBridge.SystemName

def isStrayOctet (c : CodePoint) : Bool := 0xDC80 ≤ c.val && c.val ≤ 0xDCFF

def octets (c : CodePoint) : List UInt8 :=
  if isStrayOctet c then [UInt8.ofNat (c.val - 0xDC00)] else Utf8.octets c

def encode (t : Text) : List UInt8 := t.flatMap octets

def unencodable? (t : Text) : Option Unencodable :=
  Unencodable.find? (fun c => c.isSurrogate && !isStrayOctet c) t

def strayOctet (b : UInt8) : CodePoint :=
  ⟨0xDC00 + b.toNat, Nat.lt_trans (Nat.add_lt_add_left b.toNat_lt _) (by decide)⟩

def decode (octets : List UInt8) : Text := Utf8.decodeOr strayOctet octets

end DriveBridge.SystemName
