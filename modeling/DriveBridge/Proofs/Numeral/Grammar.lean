import Mathlib.Data.List.Induction
import Mathlib.Data.Nat.Digits.Defs
import DriveBridge.Proofs.Json.Numbers
import DriveBridge.Proofs.Numeral.Margins

namespace DriveBridge.Integer

open CodePoint

variable {c d : CodePoint} {t : Text} {k : Nat} {ds : List Nat}

/-- Digits of any scripts, the greatest power of ten first, that single low lines may set apart. -/
inductive IsDigits : Text → List Nat → Prop
  | last {c : CodePoint} {k : Nat} (hc : digit? c = some k) : IsDigits [c] [k]
  | next {c : CodePoint} {k : Nat} {t : Text} {ds : List Nat} (hc : digit? c = some k)
      (ht : IsDigits t ds) : IsDigits (c :: t) (k :: ds)
  | apart {c : CodePoint} {k : Nat} {t : Text} {ds : List Nat} (hc : digit? c = some k)
      (ht : IsDigits t ds) : IsDigits (c :: 0x5F :: t) (k :: ds)

def DenotesNat (t : Text) (m : Nat) : Prop :=
  ∃ ds, IsDigits t ds ∧ ds.length ≤ maxDigits ∧ Nat.ofDigits 10 ds.reverse = m

inductive Denotes : Text → Int → Prop
  | unsigned {t : Text} {m : Nat} (h : DenotesNat t m) : Denotes t m
  | plus {t : Text} {m : Nat} (h : DenotesNat t m) : Denotes (0x2B :: t) m
  | minus {t : Text} {m : Nat} (h : DenotesNat t m) : Denotes (0x2D :: t) (-m)

theorem valueOf_eq_ofDigits (ds : List Nat) : valueOf ds = Nat.ofDigits 10 ds.reverse := by
  rw [valueOf, Nat.ofDigits_eq_foldr, List.foldr_reverse]
  simp only [Nat.cast_id, Nat.add_comm]

theorem ne_of_digit (hc : digit? c = some k) (hd : digit? d = none) : c ≠ d := by
  rintro rfl
  rw [hc] at hd
  cases hd

theorem digit_lowLine : digit? 0x5F = none := by
  decide

theorem digitRun_lowLine (t : Text) : digitRun? (0x5F :: t) = none := rfl

theorem digitRun_last (hc : c ≠ 0x5F) : digitRun? [c] = (digit? c).map ([·]) := by
  cases h : digit? c <;> simp [digitRun?, Text.split_cons, Text.split_nil, hc, h]

theorem mapM_digit_cons (c : CodePoint) (t : Text) :
    (c :: t).mapM digit? = (digit? c).bind fun k => (t.mapM digit?).map (k :: ·) := by
  rw [List.mapM_cons]
  cases digit? c <;> cases t.mapM digit? <;> rfl

theorem digitRun_cons {s : Text}
    (hempty : (Text.split (· = 0x5F) s).any List.isEmpty =
      (Text.split (· = 0x5F) t).any List.isEmpty)
    (hflat : (Text.split (· = 0x5F) s).flatten = c :: (Text.split (· = 0x5F) t).flatten) :
    digitRun? s = (digit? c).bind fun k => (digitRun? t).map (k :: ·) := by
  rw [digitRun?, digitRun?, hempty, hflat, mapM_digit_cons]
  split
  · exact (Option.bind_fun_none _).symm
  · rfl

theorem digitRun_apart (hc : c ≠ 0x5F) (t : Text) :
    digitRun? (c :: 0x5F :: t) = (digit? c).bind fun k => (digitRun? t).map (k :: ·) := by
  apply digitRun_cons <;> simp [Text.split_cons, hc]

theorem digitRun_next (hc : c ≠ 0x5F) (hd : d ≠ 0x5F) (t : Text) : digitRun? (c :: d :: t) =
    (digit? c).bind fun k => (digitRun? (d :: t)).map (k :: ·) := by
  obtain ⟨first, others, hsplit⟩ := List.exists_cons_of_ne_nil (Text.split_ne_nil (· = 0x5F) t)
  apply digitRun_cons <;> simp [Text.split_cons, hc, hd, hsplit]

theorem ne_lowLine_of_digitRun (h : digitRun? (c :: t) = some ds) : c ≠ 0x5F := by
  rintro rfl
  rw [digitRun_lowLine] at h
  cases h

theorem exists_of_bind_digit
    (h : ((digit? c).bind fun k => (digitRun? t).map (k :: ·)) = some ds) :
    ∃ k rest, digit? c = some k ∧ digitRun? t = some rest ∧ k :: rest = ds := by
  obtain ⟨k, hk, h⟩ := Option.bind_eq_some_iff.mp h
  obtain ⟨rest, hrest, hds⟩ := Option.map_eq_some_iff.mp h
  exact ⟨k, rest, hk, hrest, hds⟩

-- Two code points at a time, since a low line goes with the digit in front of it.
theorem isDigits_of_digitRun (h : digitRun? t = some ds) : IsDigits t ds := by
  induction t using List.twoStepInduction generalizing ds with
  | nil => cases h
  | singleton c =>
    rw [digitRun_last (ne_lowLine_of_digitRun h)] at h
    obtain ⟨k, hk, rfl⟩ := Option.map_eq_some_iff.mp h
    exact .last hk
  | cons_cons c d t ihrest ih =>
    have hc := ne_lowLine_of_digitRun h
    by_cases hd : d = 0x5F
    · rw [hd, digitRun_apart hc] at h
      obtain ⟨k, rest, hk, hrest, rfl⟩ := exists_of_bind_digit h
      rw [hd]
      exact .apart hk (ihrest hrest)
    · rw [digitRun_next hc hd] at h
      obtain ⟨k, rest, hk, hrest, rfl⟩ := exists_of_bind_digit h
      exact .next hk (ih d hrest)

theorem IsDigits.exists_digit (h : IsDigits t ds) :
    ∃ c rest k, t = c :: rest ∧ digit? c = some k := by
  cases h with
  | last hc | next hc _ | apart hc _ => exact ⟨_, _, _, rfl, hc⟩

theorem digitRun_of_isDigits (h : IsDigits t ds) : digitRun? t = some ds := by
  induction h with
  | last hc => rw [digitRun_last (ne_of_digit hc digit_lowLine), hc, Option.map_some]
  | next hc ht ih =>
    obtain ⟨d, rest, _, rfl, hd⟩ := ht.exists_digit
    rw [digitRun_next (ne_of_digit hc digit_lowLine) (ne_of_digit hd digit_lowLine), hc, ih]
    rfl
  | apart hc _ ih =>
    rw [digitRun_apart (ne_of_digit hc digit_lowLine), hc, ih]
    rfl

theorem digitRun_eq_some_iff : digitRun? t = some ds ↔ IsDigits t ds :=
  ⟨isDigits_of_digitRun, digitRun_of_isDigits⟩

theorem magnitude_eq_some_iff {m : Nat} : magnitude? t = some m ↔ DenotesNat t m := by
  simp only [magnitude?, DenotesNat, Option.map_eq_some_iff, Option.filter_eq_some_iff,
    digitRun_eq_some_iff, valueOf_eq_ofDigits, decide_eq_true_eq, and_assoc]

theorem DenotesNat.exists_digit {m : Nat} (h : DenotesNat t m) :
    ∃ c rest k, t = c :: rest ∧ digit? c = some k := by
  obtain ⟨ds, hds, _⟩ := h
  exact hds.exists_digit

theorem signed_minus (t : Text) :
    signed? magnitude? (0x2D :: t) = (magnitude? t).map fun m : Nat => -(m : Int) := by
  rw [signed?, if_pos rfl]
  cases magnitude? t <;> rfl

theorem signed_plus (t : Text) :
    signed? magnitude? (0x2B :: t) = (magnitude? t).map fun m : Nat => (m : Int) := by
  rw [signed?, if_neg (by decide), if_pos rfl]
  cases magnitude? t <;> rfl

theorem signed_unsigned (hminus : c ≠ 0x2D) (hplus : c ≠ 0x2B) (t : Text) :
    signed? magnitude? (c :: t) = (magnitude? (c :: t)).map fun m : Nat => (m : Int) := by
  rw [signed?, if_neg hminus, if_neg hplus]
  cases magnitude? (c :: t) <;> rfl

theorem denotes_of_signed {n : Int} (h : signed? magnitude? t = some n) : Denotes t n := by
  cases t with
  | nil => cases h
  | cons c t =>
    by_cases hminus : c = 0x2D
    · rw [hminus, signed_minus] at h
      obtain ⟨m, hm, rfl⟩ := Option.map_eq_some_iff.mp h
      rw [hminus]
      exact .minus (magnitude_eq_some_iff.mp hm)
    by_cases hplus : c = 0x2B
    · rw [hplus, signed_plus] at h
      obtain ⟨m, hm, rfl⟩ := Option.map_eq_some_iff.mp h
      rw [hplus]
      exact .plus (magnitude_eq_some_iff.mp hm)
    · rw [signed_unsigned hminus hplus] at h
      obtain ⟨m, hm, rfl⟩ := Option.map_eq_some_iff.mp h
      exact .unsigned (magnitude_eq_some_iff.mp hm)

theorem signed_of_denotes {n : Int} (h : Denotes t n) : signed? magnitude? t = some n := by
  cases h with
  | unsigned h =>
    obtain ⟨c, rest, k, rfl, hc⟩ := h.exists_digit
    have hminus : c ≠ 0x2D := ne_of_digit hc (by decide)
    have hplus : c ≠ 0x2B := ne_of_digit hc (by decide)
    rw [signed_unsigned hminus hplus, magnitude_eq_some_iff.mpr h, Option.map_some]
  | plus h => rw [signed_plus, magnitude_eq_some_iff.mpr h, Option.map_some]
  | minus h => rw [signed_minus, magnitude_eq_some_iff.mpr h, Option.map_some]

theorem signed_eq_some_iff {n : Int} : signed? magnitude? t = some n ↔ Denotes t n :=
  ⟨denotes_of_signed, signed_of_denotes⟩

theorem ofText_eq_some_iff {n : Int} :
    ofText? t = some n ↔ Denotes (Text.trimWhile isMargin t) n := signed_eq_some_iff

theorem ofText_eq_none_iff :
    ofText? t = none ↔ ∀ n, ¬ Denotes (Text.trimWhile isMargin t) n := by
  simp only [Option.eq_none_iff_forall_ne_some, ne_eq, ofText_eq_some_iff]

theorem digit_of_isDigit (hc : JsonText.isDigit c) : digit? c = some (c.val - 0x30) := by
  rw [JsonText.isDigit, Bool.and_eq_true, decide_eq_true_eq, decide_eq_true_eq] at hc
  have hzeros : zeros = 0x30 :: zeros.tail := rfl
  have hlt : c.val < 0x30 + 10 := by omega
  rw [digit?, hzeros]
  simp [hc.1, hlt]

theorem isDigits_of_all (ht : t.all JsonText.isDigit) (hne : t ≠ []) :
    IsDigits t (JsonText.digitValues t) := by
  induction t with
  | nil => exact absurd rfl hne
  | cons c t ih =>
    rw [List.all_cons, Bool.and_eq_true] at ht
    have hc := digit_of_isDigit ht.1
    cases t with
    | nil => exact .last hc
    | cons d t => exact .next hc (ih ht.2 (List.cons_ne_nil d t))

theorem denotesNat_digits {n : Nat} (h : (digits n).length ≤ maxDigits) :
    DenotesNat (digits n) n := by
  refine ⟨_, isDigits_of_all (JsonText.isDigit_digits n) (digits_ne_nil n), ?_, ?_⟩
  · rwa [JsonText.digitValues, List.length_map]
  · rw [← valueOf_eq_ofDigits, JsonText.valueOf_digits]

theorem denotes_toText {n : Int} (h : (digits n.natAbs).length ≤ maxDigits) :
    Denotes (toText n) n := by
  rw [toText]
  split
  · rename_i hneg
    have hminus := Denotes.minus (denotesNat_digits h)
    rwa [Int.ofNat_natAbs_of_nonpos (Int.le_of_lt hneg), Int.neg_neg] at hminus
  · rename_i hneg
    have hplain := Denotes.unsigned (denotesNat_digits h)
    rwa [Int.natAbs_of_nonneg (Int.not_lt.mp hneg)] at hplain

theorem ofText_toText {n : Int} (h : (digits n.natAbs).length ≤ maxDigits) :
    ofText? (toText n) = some n := by
  have hread := signed_eq_some_iff.mpr (denotes_toText h)
  obtain ⟨hne, hblank⟩ := not_isBlank_of_signed hread
  rw [ofText?, Text.trimWhile_eq_self _ hne, hread]
  intro c hc hmargin
  exact hblank c hc (isBlank_of_isMargin hmargin)

end DriveBridge.Integer
