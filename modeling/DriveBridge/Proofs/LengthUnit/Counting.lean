import DriveBridge.Proofs.LengthUnit.Spelling
import DriveBridge.Proofs.Text.Octets

namespace DriveBridge

namespace Text

def IsAdditive (size : Text → Nat) : Prop := ∀ s t, size (s ++ t) = size s + size t

variable {f g : Text → Nat}

theorem isAdditive_length : IsAdditive List.length := fun _ _ => List.length_append

theorem IsAdditive.mul (hf : IsAdditive f) (n : Nat) : IsAdditive fun t => n * f t := by
  intro s t
  dsimp only
  rw [hf, Nat.mul_add]

theorem IsAdditive.nil (hf : IsAdditive f) : f [] = 0 := by
  have h := hf [] []
  rw [List.append_nil] at h
  omega

theorem IsAdditive.cons (hf : IsAdditive f) (c : CodePoint) (t : Text) :
    f (c :: t) = f [c] + f t :=
  hf [c] t

theorem IsAdditive.le (hf : IsAdditive f) (hg : IsAdditive g) (h : ∀ c, f [c] ≤ g [c]) (t : Text) :
    f t ≤ g t := by
  induction t with
  | nil => exact Nat.le_of_eq (hf.nil.trans hg.nil.symm)
  | cons c t ih =>
    have hc := h c
    rw [hf.cons, hg.cons]
    omega

theorem IsAdditive.eq_iff (hf : IsAdditive f) (hg : IsAdditive g) (h : ∀ c, f [c] ≤ g [c])
    (t : Text) : f t = g t ↔ ∀ c ∈ t, f [c] = g [c] := by
  induction t with
  | nil => simp [hf.nil, hg.nil]
  | cons c t ih =>
    -- Neither summand can make up for a difference in the other one.
    have hc := h c
    have ht := hf.le hg h t
    rw [hf.cons, hg.cons, List.forall_mem_cons, ← ih]
    omega

theorem IsAdditive.replace (hf : IsAdditive f) {a b : CodePoint} (h : f [a] = f [b]) (t : Text) :
    f (Text.replace a b t) = f t := by
  induction t with
  | nil => rfl
  | cons c t ih =>
    have hc : f [if c = a then b else c] = f [c] := by
      split
      · rename_i ha
        rw [ha, h]
      · rfl
    rw [Text.replace, List.map_cons, hf.cons, hf.cons c t, hc]
    exact congrArg _ ih

end Text

theorem Utf16.length_littleEndian (t : Text) :
    (littleEndian t).length = 2 * (encode t).length := by
  rw [littleEndian]
  induction encode t with
  | nil => rfl
  | cons u units ih =>
    rw [List.flatMap_cons, List.length_append, ih, List.length_cons]
    simp only [List.length_cons, List.length_nil]
    omega

namespace LengthUnit

theorem isAdditive_count (u : LengthUnit) : Text.IsAdditive u.count := by
  intro s t
  cases u with
  | utf8 => simp only [count, Utf8.encode, List.flatMap_append, List.length_append]
  | utf16 => simp only [count, Utf16.encode, List.flatMap_append, List.length_append]

variable {c : CodePoint}

theorem count_utf16_singleton (c : CodePoint) :
    utf16.count [c] = if c.val < 0x10000 then 1 else 2 := by
  simp only [count, Utf16.encode, Utf16.units, List.flatMap_singleton]
  split <;> rfl

theorem count_utf8_singleton (c : CodePoint) : utf8.count [c] =
    if c.val < 0x80 then 1 else if c.val < 0x800 then 2 else if c.val < 0x10000 then 3 else 4 := by
  simp only [count, Utf8.encode, Utf8.octets, List.flatMap_singleton]
  split
  · rfl
  split
  · rfl
  split
  · rfl
  · rfl

theorem count_ascii (u : LengthUnit) (h : c.val < 0x80) : u.count [c] = 1 := by
  cases u with
  | utf8 => rw [count_utf8_singleton, if_pos h]
  | utf16 => rw [count_utf16_singleton, if_pos (by omega)]

theorem one_le_utf16 (c : CodePoint) : 1 ≤ utf16.count [c] := by
  rw [count_utf16_singleton]
  split <;> omega

theorem one_eq_utf16_iff : 1 = utf16.count [c] ↔ c.val ≤ 0xFFFF := by
  rw [count_utf16_singleton]
  split <;> omega

theorem utf16_le_utf8 (c : CodePoint) : utf16.count [c] ≤ utf8.count [c] := by
  rw [count_utf16_singleton, count_utf8_singleton]
  grind

theorem utf16_eq_utf8_iff : utf16.count [c] = utf8.count [c] ↔ c.val < 0x80 := by
  rw [count_utf16_singleton, count_utf8_singleton]
  grind

theorem utf8_le_three_mul (c : CodePoint) : utf8.count [c] ≤ 3 * utf16.count [c] := by
  rw [count_utf16_singleton, count_utf8_singleton]
  grind

/-- Every text has a length in a unit, and lengths add up whatever two texts meet at. That in UTF-16
is half the number of octets without a rest. It lies between the number of code points, which it is if
none of them needs a pair, and the length in UTF-8, which is at most three times as much and the
same for ASCII only. -/
theorem count_additive_bounded {v : Value} {u : LengthUnit} (hv : v.toUnit = .ok u) (a b t : Text) :
    (∀ s, v.countIn s = .ok (u.count s)) ∧
    u.count (a ++ b) = u.count a + u.count b ∧
    (Utf16.littleEndian t).length = 2 * utf16.count t ∧
    t.length ≤ utf16.count t ∧ utf16.count t ≤ utf8.count t ∧
    utf8.count t ≤ 3 * utf16.count t ∧
    (utf16.count t = t.length ↔ ∀ c ∈ t, c.val ≤ 0xFFFF) ∧
    (utf8.count t = utf16.count t ↔ ∀ c ∈ t, c.val < 0x80) := by
  have hone : ∀ c : CodePoint, [c].length ≤ utf16.count [c] := one_le_utf16
  refine ⟨Value.countIn_of_toUnit hv, u.isAdditive_count a b, Utf16.length_littleEndian t,
    ?_, ?_, ?_, ?_, ?_⟩
  · exact Text.isAdditive_length.le utf16.isAdditive_count hone t
  · exact utf16.isAdditive_count.le utf8.isAdditive_count utf16_le_utf8 t
  · exact utf8.isAdditive_count.le (utf16.isAdditive_count.mul 3) utf8_le_three_mul t
  · rw [eq_comm, Text.isAdditive_length.eq_iff utf16.isAdditive_count hone]
    exact forall₂_congr fun _ _ => one_eq_utf16_iff
  · rw [eq_comm, utf16.isAdditive_count.eq_iff utf8.isAdditive_count utf16_le_utf8]
    exact forall₂_congr fun _ _ => utf16_eq_utf8_iff

theorem count_halves : (Value.text utf16.label).toUnit = .ok .utf16 ∧
    (Value.text utf16.label).countIn ([0xD83D] ++ [0xDE00]) = .ok 2 ∧
    (Utf16.littleEndian ([0xD83D] ++ [0xDE00])).length = 4 ∧
    utf8.count ([0xD83D] ++ [0xDE00]) ≠ utf16.count ([0xD83D] ++ [0xDE00]) := by
  have hv := Value.toUnit_label utf16
  obtain ⟨hcount, hadd, heven, _, _, _, _, hascii⟩ :=
    count_additive_bounded hv [0xD83D] [0xDE00] ([0xD83D] ++ [0xDE00])
  have htwo : utf16.count ([0xD83D] ++ [0xDE00]) = 2 := hadd
  refine ⟨hv, ?_, ?_, ?_⟩
  · rw [hcount, htwo]
  · rw [heven, htwo]
  · rw [ne_eq, hascii]
    intro hall
    exact absurd (hall 0xD83D List.mem_cons_self) (by decide)

end LengthUnit

end DriveBridge
