import DriveBridge.Numeral.Shortest

/-!
The shortest decimal of a number other than zero is not zero. The search ends at a grid that is
finer than half the spacing of the numbers, and such a grid has a point in every basin.
-/

namespace DriveBridge.Binary64

variable {rank d u v : Nat} {p e : Int}

theorem significand_pos (h : 0 < rank) : 0 < significand rank := by
  have hb : 0 < binade := by decide
  rw [significand]
  split <;> omega

theorem significand_lt (rank : Nat) : significand rank < 2 * binade := by
  have hb : 0 < binade := by decide
  have := Nat.mod_lt rank hb
  rw [significand]
  split <;> omega

theorem up_pos (e p : Int) : 0 < up e p :=
  Nat.mul_pos (Nat.pow_pos (by decide)) (Nat.pow_pos (by decide))

theorem down_pos (e p : Int) : 0 < down e p :=
  Nat.mul_pos (Nat.pow_pos (by decide)) (Nat.pow_pos (by decide))

theorem basin_low_pos (h : 0 < rank) : 0 < (basin rank).low := by
  have := significand_pos h
  simp only [basin]
  split <;> omega

theorem basin_low_lt (h : 0 < rank) : (basin rank).low < (basin rank).middle := by
  have := significand_pos h
  simp only [basin]
  split <;> omega

theorem basin_middle_lt (rank : Nat) : (basin rank).middle + 2 = (basin rank).high := rfl

theorem pos_of_holds {b : Basin} (hb : 0 < b.low) (hu : 0 < u) (h : b.holds u v d) : 0 < d := by
  have hlow := Nat.mul_pos hb hu
  have : 0 < d * v := by
    rw [Basin.holds] at h
    split at h <;> simp only [Bool.and_eq_true, decide_eq_true_eq] at h <;> omega
  exact Nat.pos_of_mul_pos_right this

theorem gridPoint?_pos (h : 0 < rank) (hd : gridPoint? rank p = some d) : 0 < d := by
  have hb := basin_low_pos h
  have hu := up_pos (exponent rank) p
  simp only [gridPoint?] at hd
  split at hd
  · rename_i hholds _
    have := pos_of_holds hb hu hholds
    split at hd <;> cases hd <;> omega
  · rename_i hholds _
    cases hd
    exact pos_of_holds hb hu hholds
  · cases hd
    exact Nat.succ_pos _
  · cases hd

theorem gridPoint?_isSome (h : 0 < rank)
    (hfine : down (exponent rank) p < 2 * up (exponent rank) p) : (gridPoint? rank p).isSome := by
  have hup := up_pos (exponent rank) p
  have hdown := down_pos (exponent rank) p
  have hnext : (basin rank).holds (up (exponent rank) p) (down (exponent rank) p)
      ((basin rank).middle * up (exponent rank) p / down (exponent rank) p + 1) := by
    generalize up (exponent rank) p = u at *
    generalize down (exponent rank) p = v at *
    have hlow := Nat.mul_lt_mul_of_pos_right (basin_low_lt h) hup
    have hhigh : (basin rank).high * u = (basin rank).middle * u + 2 * u := by
      rw [← basin_middle_lt, Nat.add_mul]
    have hfloor := Nat.div_mul_le_self ((basin rank).middle * u) v
    have hceil := Nat.lt_div_mul_add (a := (basin rank).middle * u) hdown
    have hstep := Nat.succ_mul ((basin rank).middle * u / v) v
    rw [Nat.succ_eq_add_one] at hstep
    rw [Basin.holds]
    split <;> simp only [Bool.and_eq_true, decide_eq_true_eq] <;> omega
  simp only [gridPoint?, hnext]
  split
  · split <;> rfl
  · rfl
  · rfl
  · contradiction

theorem descend_pos (h : 0 < rank) {grids : Nat} {i : Nat} (hi : i < grids)
    (hp : (gridPoint? rank (p - i)).isSome) : 0 < (descend rank grids p).1 := by
  induction grids generalizing i p with
  | zero => omega
  | succ grids ih =>
    rw [descend]
    split
    · rename_i hd
      exact gridPoint?_pos h hd
    · rename_i hd
      cases i with
      | zero =>
        rw [Int.natCast_zero, Int.sub_zero, hd] at hp
        cases hp
      | succ i =>
        apply ih (i := i) (by omega)
        rwa [show p - 1 - (i : Int) = p - (i + 1 : Nat) by omega]

theorem pow_lt_pow_of_le {a b x y m n : Nat} (hb : 1 < b) (hx : x ≠ 0)
    (h : Nat.pow a x ≤ Nat.pow b y) (hmn : y * m < x * n) : Nat.pow a m < Nat.pow b n := by
  simp only [Nat.pow_eq] at h ⊢
  have : (a ^ m) ^ x < (b ^ n) ^ x := calc
    (a ^ m) ^ x = (a ^ x) ^ m := Nat.pow_right_comm a m x
    _ ≤ (b ^ y) ^ m := Nat.pow_le_pow_left h m
    _ = b ^ (y * m) := (Nat.pow_mul b y m).symm
    _ < b ^ (x * n) := Nat.pow_lt_pow_right hb hmn
    _ = (b ^ n) ^ x := by rw [Nat.mul_comm, Nat.pow_mul]
  exact (Nat.pow_lt_pow_iff_left hx).mp this

theorem exponent_range (h : rank < 2047 * Nat.pow 2 52) :
    -1074 ≤ exponent rank ∧ exponent rank ≤ 971 := by
  have : rank / binade < 2047 := Nat.div_lt_of_lt_mul (by rwa [Nat.mul_comm])
  rw [exponent]
  omega

theorem down_lt_two_mul_up {b : Int} (he : -1074 ≤ e ∧ e ≤ 971) (hb : b ≤ e + 53)
    (hp : p = b * 30103 / 100000 - 18) : down e p < 2 * up e p := by
  simp only [down, up, Nat.pow_eq]
  -- Ten to a power is compared with two to one through `10 ^ 3 ≤ 2 ^ 10` and `2 ^ 93 ≤ 10 ^ 28`.
  by_cases he2 : 2 ≤ e
  · have htwo : (2 - e).toNat = 0 := by omega
    have hdouble : 2 * 2 ^ (e - 2).toNat = 2 ^ (e - 1).toNat := by
      rw [← Nat.pow_succ', show (e - 2).toNat.succ = (e - 1).toNat by omega]
    rw [htwo, Nat.pow_zero, Nat.one_mul, ← Nat.mul_assoc, hdouble]
    by_cases hp0 : 0 ≤ p
    · rw [show (-p).toNat = 0 by omega, Nat.pow_zero, Nat.mul_one]
      exact pow_lt_pow_of_le (x := 3) (y := 10) (by decide) (by decide) (by decide) (by omega)
    · have hup : 0 < 2 ^ (e - 2).toNat * 10 ^ (-p).toNat :=
        Nat.mul_pos (Nat.two_pow_pos _) (Nat.pow_pos (by decide))
      rw [show p.toNat = 0 by omega, Nat.pow_zero, ← hdouble, Nat.mul_assoc]
      omega
  · have hneg : p < 0 := by omega
    rw [show (e - 2).toNat = 0 by omega, show p.toNat = 0 by omega, Nat.pow_zero, Nat.mul_one,
      Nat.one_mul, show (2 - e).toNat = (1 - e).toNat + 1 by omega, Nat.pow_succ']
    refine Nat.mul_lt_mul_of_pos_left (pow_lt_pow_of_le (x := 93) (y := 28) (by decide) (by decide)
      (by decide) ?_) (by decide)
    omega

theorem shortest_pos (h : 0 < rank) (hr : rank < 2047 * Nat.pow 2 52) : 0 < (shortest rank).1 := by
  have hbits : (significand rank).log2 < 53 :=
    Nat.log2_lt (Nat.ne_of_gt (significand_pos h)) |>.mpr (significand_lt rank)
  apply descend_pos h (i := 19) (by decide)
  apply gridPoint?_isSome h
  apply down_lt_two_mul_up (exponent_range hr)
    (b := exponent rank + (significand rank).log2 + 1)
  · omega
  · omega

end DriveBridge.Binary64
