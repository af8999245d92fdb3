import DriveBridge.Proofs.Numeral.Finite

namespace DriveBridge.Binary64

variable {num den k m rank : Nat}

def IsRatio (x : Binary64) (num : Int) (den : Nat) : Prop :=
  ∃ negative rank, x = .finite negative rank ∧ numerator negative rank * den = num * denominator rank

theorem divRound_of_mul (hden : 0 < den) : divRound (m * den) den = m := by
  rw [divRound, Nat.mul_mod_left, Nat.mul_div_cancel _ hden]
  exact if_pos (.inl hden)

theorem le_mul_pow {a b g : Nat} (hnum : num ≠ 0)
    (h : b + (den.log2 + 1 + g) ≤ num.log2 + a) :
    Nat.pow 2 b * (den * Nat.pow 2 g) ≤ num * Nat.pow 2 a := by
  have hnum : 2 ^ num.log2 ≤ num := Nat.log2_self_le hnum
  have hden : den ≤ 2 ^ (den.log2 + 1) := Nat.le_of_lt Nat.lt_log2_self
  calc 2 ^ b * (den * 2 ^ g)
    _ ≤ 2 ^ b * (2 ^ (den.log2 + 1) * 2 ^ g) :=
      Nat.mul_le_mul_left _ (Nat.mul_le_mul_right _ hden)
    _ = 2 ^ (b + (den.log2 + 1 + g)) := by rw [Nat.pow_add 2 b, Nat.pow_add 2 _ g]
    _ ≤ 2 ^ (num.log2 + a) := Nat.pow_le_pow_right (by decide) h
    _ = 2 ^ num.log2 * 2 ^ a := Nat.pow_add ..
    _ ≤ num * 2 ^ a := Nat.mul_le_mul_right _ hnum

-- The exponent is a variable in the following bounds, so that no proof looks into the power.
theorem lt_spacing_pow {a : Nat} (ha : 1074 = a) (num : Nat) (hden : 0 < den) :
    num * Nat.pow 2 a < 2 * binade * (den * Nat.pow 2 (spacing num den)) := by
  have h := lt_spacing num hden
  revert h
  rw [ha]
  exact id

theorem le_spacing_pow {a : Nat} (ha : 1074 = a) (hnum : num ≠ 0) (hden : 0 < den)
    (hnormal : 0 < guess num den) :
    binade * (den * Nat.pow 2 (spacing num den)) ≤ num * Nat.pow 2 a := by
  rw [spacing_eq, ha]
  split
  · apply le_mul_pow (b := 52) hnum
    rw [guess] at *
    omega
  · rename_i hlarge
    have hpos : 0 < den * Nat.pow 2 (guess num den) := Nat.mul_pos hden (Nat.two_pow_pos _)
    rw [Nat.not_lt] at hlarge
    exact (Nat.le_div_iff_mul_le hpos).mp hlarge

theorem significand_of_normal (k : Nat) (hlow : binade ≤ m) (hhigh : m < 2 * binade) :
    significand (k * binade + m) = m ∧ exponent (k * binade + m) = (k : Int) - 1074 := by
  have hb : 0 < binade := Nat.two_pow_pos 52
  obtain ⟨r, rfl⟩ := Nat.exists_eq_add_of_le hlow
  have hr : r < binade := by omega
  have hrank : k * binade + (binade + r) = binade * (k + 1) + r := by
    rw [Nat.mul_add, Nat.mul_comm]
    omega
  have hdiv : (binade * (k + 1) + r) / binade = k + 1 := by
    rw [Nat.mul_add_div hb, Nat.div_eq_of_lt hr, Nat.add_zero]
  have hmod : (binade * (k + 1) + r) % binade = r := by
    rw [Nat.mul_add_mod, Nat.mod_eq_of_lt hr]
  rw [hrank, significand, exponent, hdiv, hmod]
  constructor
  · rw [if_neg]
    rw [Nat.mul_add]
    omega
  · omega

theorem rounded_quarters {j : Nat} (hnum : num ≠ 0) (hnormal : 0 < guess num 4)
    (hj : 1074 = j + (2 + spacing num 4)) :
    rounded num 4 = spacing num 4 * binade + num * Nat.pow 2 j ∧
      binade ≤ num * Nat.pow 2 j ∧ num * Nat.pow 2 j < 2 * binade := by
  have hpos : 0 < 4 * Nat.pow 2 (spacing num 4) := Nat.mul_pos (by decide) (Nat.two_pow_pos _)
  have hscaled : num * Nat.pow 2 (j + (2 + spacing num 4)) =
      num * Nat.pow 2 j * (4 * Nat.pow 2 (spacing num 4)) := by
    rw [Nat.pow_eq, Nat.pow_add, Nat.pow_add, Nat.mul_assoc]
    rfl
  have hlow := le_spacing_pow hj hnum (show 0 < 4 by decide) hnormal
  have hhigh := lt_spacing_pow hj num (show 0 < 4 by decide)
  rw [hscaled] at hlow hhigh
  rw [rounded, if_neg hnum, hj, hscaled, divRound_of_mul hpos]
  exact ⟨rfl, Nat.le_of_mul_le_mul_right hlow hpos, Nat.lt_of_mul_lt_mul_right hhigh⟩

theorem numerator_of_normal {n : Int} {j : Nat} (hk : 1072 = k + j)
    (hlow : binade ≤ n.natAbs * Nat.pow 2 j) (hhigh : n.natAbs * Nat.pow 2 j < 2 * binade) :
    numerator (n < 0) (k * binade + n.natAbs * Nat.pow 2 j) * 4 =
      n * denominator (k * binade + n.natAbs * Nat.pow 2 j) := by
  obtain ⟨hsignificand, hexponent⟩ := significand_of_normal k hlow hhigh
  have hplaces : (-((k : Int) - 1074)).toNat = j + 2 := by omega
  have hwhole : ((k : Int) - 1074).toNat = 0 := by omega
  have hfour : Nat.pow 2 (j + 2) = Nat.pow 2 j * 4 := Nat.pow_add 2 j 2
  rw [numerator, magnitude, denominator, hsignificand, hexponent, hplaces, hwhole, hfour]
  have hone : Nat.pow 2 0 = 1 := rfl
  rw [hone, Nat.mul_one, Int.natCast_mul, Int.natCast_mul, ← Int.mul_assoc]
  split
  · rename_i hneg
    rw [decide_eq_true_eq] at hneg
    rw [← Int.neg_mul]
    congr
    omega
  · rename_i hneg
    rw [decide_eq_true_eq] at hneg
    congr
    omega

theorem isRatio_ofQuarters {n : Int} (h : n.natAbs < Nat.pow 2 53) : (ofQuarters n).IsRatio n 4 := by
  have hoverflow : n.natAbs < overflow * 4 := Nat.lt_of_lt_of_le h (by decide +kernel)
  refine ⟨_, _, ofRatio_eq (rounded_lt (by decide) hoverflow), ?_⟩
  dsimp only
  by_cases hzero : n.natAbs = 0
  · obtain rfl := Int.natAbs_eq_zero.mp hzero
    rw [Int.zero_mul]
    rfl
  have hlog : n.natAbs.log2 < 53 := (Nat.log2_lt hzero).mpr h
  have hguess : guess n.natAbs 4 = n.natAbs.log2 + 1020 := by
    have hfour : Nat.log2 4 = 2 := by decide
    rw [guess, hfour]
    omega
  have hk : spacing n.natAbs 4 ≤ 1072 := by
    rw [spacing_eq]
    split <;> omega
  obtain ⟨j, hj⟩ := Nat.exists_eq_add_of_le hk
  obtain ⟨hrounded, hlow, hhigh⟩ := rounded_quarters (j := j) hzero (by omega) (by omega)
  rw [hrounded]
  exact numerator_of_normal hj hlow hhigh

end DriveBridge.Binary64
