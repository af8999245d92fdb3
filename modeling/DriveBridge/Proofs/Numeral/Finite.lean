import DriveBridge.Log.Entry
import DriveBridge.Proofs.Numeral.Shortest

namespace DriveBridge

namespace Binary64

variable {num den k m rank : Nat} {negative : Bool}

def isFinite : Binary64 → Bool
  | .finite _ _ => true
  | _ => false

theorem divRound_le (h : 2 * num < (2 * m + 1) * den) : divRound num den ≤ m := by
  have hden : 0 < den := Nat.pos_of_mul_pos_left (Nat.zero_lt_of_lt h)
  have hnum := Nat.div_add_mod num den
  have hmul : (2 * (num / den)) * den + 2 * (num % den) < (2 * m + 1) * den := by
    rw [Nat.mul_assoc, Nat.mul_comm (num / den)]
    omega
  simp only [divRound]
  split
  · have := Nat.lt_of_mul_lt_mul_right (Nat.lt_of_le_of_lt (Nat.le_add_right _ _) hmul)
    omega
  · have hstep : (2 * (num / den) + 1) * den < (2 * m + 1) * den := by
      rw [Nat.add_mul, Nat.one_mul]
      omega
    have := Nat.lt_of_mul_lt_mul_right hstep
    omega

def guess (num den : Nat) : Nat := ((num.log2 : Int) - den.log2 + 1022).toNat

theorem spacing_eq (num den : Nat) : spacing num den =
    if num * Nat.pow 2 1074 / (den * Nat.pow 2 (guess num den)) < binade then guess num den - 1
    else guess num den := rfl

theorem mul_pow_lt {a b g : Nat} (hden : 0 < den)
    (h : num.log2 + 1 + a ≤ b + (den.log2 + g)) :
    num * Nat.pow 2 a < Nat.pow 2 b * (den * Nat.pow 2 g) := by
  have hnum : num < 2 ^ (num.log2 + 1) := Nat.lt_log2_self
  have hlog : 2 ^ den.log2 ≤ den := Nat.log2_self_le (Nat.ne_of_gt hden)
  calc num * 2 ^ a
    _ < 2 ^ (num.log2 + 1) * 2 ^ a := Nat.mul_lt_mul_of_pos_right hnum (Nat.two_pow_pos _)
    _ = 2 ^ (num.log2 + 1 + a) := (Nat.pow_add ..).symm
    _ ≤ 2 ^ (b + (den.log2 + g)) := Nat.pow_le_pow_right (by decide) h
    _ = 2 ^ b * (2 ^ den.log2 * 2 ^ g) := by rw [Nat.pow_add, Nat.pow_add]
    _ ≤ 2 ^ b * (den * 2 ^ g) := Nat.mul_le_mul_left _ (Nat.mul_le_mul_right _ hlog)

theorem log2_lt_of_lt_pow_mul {a : Nat} (hnum : num ≠ 0) (h : num < Nat.pow 2 a * den) :
    num.log2 < a + (den.log2 + 1) := by
  have hpow : 2 ^ num.log2 < 2 ^ (a + (den.log2 + 1)) := calc 2 ^ num.log2
    _ ≤ num := Nat.log2_self_le hnum
    _ < 2 ^ a * den := h
    _ ≤ 2 ^ a * 2 ^ (den.log2 + 1) := Nat.mul_le_mul_left _ (Nat.le_of_lt Nat.lt_log2_self)
    _ = 2 ^ (a + (den.log2 + 1)) := (Nat.pow_add ..).symm
  exact (Nat.pow_lt_pow_iff_right (by decide)).mp hpow

theorem lt_guess (num : Nat) (hden : 0 < den) :
    num * Nat.pow 2 1074 < 2 * binade * (den * Nat.pow 2 (guess num den)) := by
  apply mul_pow_lt (b := 53) hden
  rw [guess]
  omega

theorem lt_spacing (num : Nat) (hden : 0 < den) :
    num * Nat.pow 2 1074 < 2 * binade * (den * Nat.pow 2 (spacing num den)) := by
  have hguess := lt_guess num hden
  rw [spacing_eq]
  split
  · rename_i hsmall
    have hpos : 0 < den * Nat.pow 2 (guess num den) := Nat.mul_pos hden (Nat.two_pow_pos _)
    rw [Nat.div_lt_iff_lt_mul hpos] at hsmall
    cases hg : guess num den with
    | zero =>
      rw [hg] at hguess
      exact hguess
    | succ g =>
      have hdouble : den * Nat.pow 2 (g + 1) = 2 * (den * Nat.pow 2 g) := by
        rw [Nat.pow_eq, Nat.pow_eq, Nat.pow_succ', Nat.mul_left_comm]
      rwa [hg, hdouble, Nat.mul_left_comm, ← Nat.mul_assoc] at hsmall
  · exact hguess

def overflow : Nat := (Nat.pow 2 54 - 1) * Nat.pow 2 970

theorem overflow_le : overflow ≤ Nat.pow 2 1024 := by decide +kernel

theorem guess_le (h : num < overflow * den) : guess num den ≤ 2046 := by
  by_cases hnum : num = 0
  · rw [guess, hnum, Nat.log2_zero]
    omega
  · have hpow := Nat.lt_of_lt_of_le h (Nat.mul_le_mul_right den overflow_le)
    have := log2_lt_of_lt_pow_mul hnum hpow
    rw [guess]
    omega

theorem mul_lt_mul_of_lt_mul {a b c d : Nat} (hc : 0 < c) (h : num < a * den)
    (habcd : a * c = b * d) : num * c < b * (den * d) := calc num * c
  _ < a * den * c := Nat.mul_lt_mul_of_pos_right h hc
  _ = a * c * den := Nat.mul_right_comm ..
  _ = b * (den * d) := by rw [habcd, Nat.mul_assoc, Nat.mul_comm d]

theorem spacing_le (h : num < overflow * den) : spacing num den ≤ 2045 := by
  have hguess := guess_le h
  rw [spacing_eq]
  split
  · omega
  · rename_i hlarge
    -- At 2046 the significand falls short of a binade, and the smaller spacing is taken.
    have hne : guess num den ≠ 2046 := by
      intro hg
      apply hlarge
      rw [hg]
      apply Nat.div_lt_of_lt_mul
      rw [Nat.mul_comm _ binade]
      have hpow := Nat.lt_of_lt_of_le h (Nat.mul_le_mul_right den overflow_le)
      exact mul_lt_mul_of_lt_mul (by decide +kernel) hpow (by decide +kernel)
    omega

def rounded (num den : Nat) : Nat :=
  if num = 0 then 0
  else spacing num den * binade +
    divRound (num * Nat.pow 2 1074) (den * Nat.pow 2 (spacing num den))

theorem ofRatio_eq (h : rounded num den < 2047 * Nat.pow 2 52) :
    ofRatio negative num den = .finite negative ⟨rounded num den, h⟩ := dif_pos h

theorem divRound_spacing_le (num : Nat) (hden : 0 < den) :
    divRound (num * Nat.pow 2 1074) (den * Nat.pow 2 (spacing num den)) ≤ 2 * binade := by
  apply divRound_le
  have := lt_spacing num hden
  rw [Nat.add_mul, Nat.mul_assoc]
  omega

theorem rounded_lt (hden : 0 < den) (h : num < overflow * den) :
    rounded num den < 2047 * binade := by
  have hb : 0 < binade := Nat.two_pow_pos 52
  have hle := divRound_spacing_le num hden
  have hspacing := spacing_le h
  rw [rounded]
  generalize spacing num den = k at *
  split
  · exact Nat.mul_pos (by decide) hb
  by_cases hlast : k = 2045
  · -- In the last binade nothing below the threshold rounds up to the next power of two.
    have hlt : divRound (num * Nat.pow 2 1074) (den * Nat.pow 2 k) ≤ 2 * binade - 1 := by
      have hdouble : 2 * num < 2 * overflow * den := by
        rw [Nat.mul_assoc]
        omega
      apply divRound_le
      rw [hlast, ← Nat.mul_assoc]
      exact mul_lt_mul_of_lt_mul (by decide +kernel) hdouble (by decide +kernel)
    rw [hlast] at hlt ⊢
    omega
  · have := Nat.mul_le_mul_right binade (show k ≤ 2044 by omega)
    omega

theorem rounded_le {a : Nat} (hden : 0 < den) (h : num < Nat.pow 2 a * den) :
    rounded num den ≤ (a + 1024) * binade := by
  have hle := divRound_spacing_le num hden
  rw [rounded]
  split
  · exact Nat.zero_le _
  · rename_i hnum
    have hlog := log2_lt_of_lt_pow_mul hnum h
    have hspacing : spacing num den ≤ a + 1022 := by
      rw [spacing_eq, guess]
      split <;> omega
    calc spacing num den * binade + divRound _ _
      _ ≤ (a + 1022) * binade + 2 * binade := Nat.add_le_add (Nat.mul_le_mul_right _ hspacing) hle
      _ = (a + 1024) * binade := (Nat.add_mul ..).symm

theorem isFinite_ofRatio (negative : Bool) (hden : 0 < den) (h : num < overflow * den) :
    (ofRatio negative num den).isFinite := by
  rw [ofRatio_eq (rounded_lt hden h)]
  rfl

theorem magnitude_le {a : Nat} (h : exponent rank ≤ a) :
    magnitude rank ≤ (2 * binade - 1) * Nat.pow 2 a := by
  have := significand_lt rank
  rw [magnitude]
  exact Nat.mul_le_mul (by omega) (Nat.pow_le_pow_right (by decide) (by omega))

theorem denominator_pos (rank : Nat) : 0 < denominator rank := Nat.two_pow_pos _

theorem natAbs_numerator (negative : Bool) (rank : Nat) :
    (numerator negative rank).natAbs = magnitude rank := by
  rw [numerator]
  split <;> omega

theorem isFinite_sub (a b : Bool) {r s : Fin (2047 * Nat.pow 2 52)} {x y : Nat}
    (hr : magnitude r ≤ x) (hs : magnitude s ≤ y) (h : x + y < overflow) :
    (sub (.finite a r) (.finite b s)).isFinite := by
  have hdr := denominator_pos r
  have hds := denominator_pos s
  apply isFinite_ofRatio _ (Nat.mul_pos hdr hds)
  calc (numerator a r * denominator s - numerator b s * denominator r).natAbs
    _ ≤ magnitude r * denominator s + magnitude s * denominator r := by
      refine Nat.le_trans (Int.natAbs_sub_le _ _) (Nat.le_of_eq ?_)
      rw [Int.natAbs_mul, Int.natAbs_mul, natAbs_numerator, natAbs_numerator, Int.natAbs_natCast,
        Int.natAbs_natCast]
    _ ≤ x * (denominator r * denominator s) + y * (denominator r * denominator s) :=
      Nat.add_le_add (Nat.mul_le_mul hr (Nat.le_mul_of_pos_left _ hdr))
        (Nat.mul_le_mul hs (Nat.le_mul_of_pos_right _ hds))
    _ = (x + y) * (denominator r * denominator s) := (Nat.add_mul ..).symm
    _ < overflow * (denominator r * denominator s) :=
      Nat.mul_lt_mul_of_pos_right h (Nat.mul_pos hdr hds)

end Binary64

namespace Calendar

theorem yearOfCycle_le {day : Nat} (h : day < cycle) : yearOfCycle day ≤ 400 := by
  simp only [yearOfCycle, cycle] at *
  omega

theorem year_ofDays (days : Int) : ∃ year ≤ 401,
    (Date.ofDays days).year = (days + epoch) / cycle * 400 + (year : Nat) := by
  have hyear : yearOfCycle ((days + epoch) % cycle).toNat ≤ 400 := by
    apply yearOfCycle_le
    simp only [cycle]
    omega
  unfold Date.ofDays
  dsimp only
  split
  · exact ⟨_, by omega, rfl⟩
  · exact ⟨yearOfCycle ((days + epoch) % cycle).toNat + 1, by omega, Int.add_assoc ..⟩

theorem natAbs_lt_of_hasStamp {seconds : Int} (h : hasStamp seconds) :
    seconds.natAbs < Nat.pow 2 58 := by
  obtain ⟨year, hyear, hdate⟩ := year_ofDays (seconds / 86400)
  simp only [hasStamp, Bool.and_eq_true, decide_eq_true_eq, hdate, cycle, epoch] at h
  rw [show Nat.pow 2 58 = 288230376151711744 from rfl]
  omega

end Calendar

namespace Entry

open Binary64

variable {now started : Int}

theorem ofQuarters_of_hasStamp (h : Calendar.hasStamp (now / 4)) :
    ∃ negative rank, ofQuarters now = .finite negative rank ∧ exponent rank ≤ (7 : Nat) := by
  have hseconds := Calendar.natAbs_lt_of_hasStamp h
  have hquarters : now.natAbs < Nat.pow 2 58 * 4 := by omega
  have hoverflow : now.natAbs < overflow * 4 :=
    Nat.lt_of_lt_of_le hquarters (Nat.mul_le_mul_right 4 (by decide +kernel))
  have hrank : rounded now.natAbs 4 / binade ≤ 58 + 1024 :=
    Nat.div_le_of_le_mul (Nat.mul_comm .. ▸ rounded_le (by decide) hquarters)
  refine ⟨_, _, ofRatio_eq (rounded_lt (by decide) hoverflow), ?_⟩
  dsimp only [exponent]
  omega

theorem isFinite_elapsed (hnow : Calendar.hasStamp (now / 4))
    (hstart : (ofQuarters started).isFinite) : (elapsed started now).isFinite := by
  obtain ⟨a, r, hr, hexp⟩ := ofQuarters_of_hasStamp hnow
  rw [elapsed, hr]
  cases hs : ofQuarters started with
  | finite b s =>
    exact isFinite_sub a b (magnitude_le hexp) (magnitude_le (a := 971) (exponent_range s.isLt).2)
      (by decide +kernel)
  | _ =>
    rw [hs] at hstart
    cases hstart

end Entry

end DriveBridge
