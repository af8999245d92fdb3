import DriveBridge.Proofs.Json.Reader
import DriveBridge.Proofs.Numeral.Finite
import DriveBridge.Proofs.Text.Octets

namespace DriveBridge

namespace Integer

theorem digits_eq (n : Nat) : digits n =
    if n < 10 then [CodePoint.ofChar (Nat.digitChar n)]
    else digits (n / 10) ++ [CodePoint.ofChar (Nat.digitChar (n % 10))] := by
  split
  · rename_i h
    rw [digits, Nat.toDigits_of_lt_base h]
    rfl
  · rename_i h
    rw [digits, Nat.toDigits_of_base_le (by decide) (by omega), List.map_append]
    rfl

theorem head?_digits {n : Nat} (h : 0 < n) : (digits n).head? ≠ some 0x30 := by
  induction n using Nat.strongRecOn with
  | ind n ih =>
    rw [digits_eq]
    split
    · rename_i hn
      have hd : ∀ k < 10, 0 < k → [CodePoint.ofChar (Nat.digitChar k)].head? ≠ some 0x30 := by
        decide
      exact hd n hn h
    · obtain ⟨c, ds, hds⟩ := List.exists_cons_of_ne_nil (digits_ne_nil (n / 10))
      have hhead := ih (n / 10) (by omega) (by omega)
      rw [hds] at hhead ⊢
      exact hhead

end Integer

namespace JsonText

open CodePoint

variable {t rest whole fraction power : Text} {e : Option Int}

def Ends (rest : Text) : Prop := ∀ c ∈ rest.head?, c = comma ∨ c = 0x5D ∨ c = 0x7D

theorem isDigit_digits (n : Nat) : (Integer.digits n).all isDigit := by
  rw [List.all_eq_true]
  intro c hc
  simpa [isDigit] using Integer.val_of_mem_digits hc

theorem valueOf_digits (n : Nat) : Integer.valueOf (digitValues (Integer.digits n)) = n := by
  rw [Integer.valueOf, digitValues, Integer.digits, List.map_map, List.foldl_map]
  exact Nat.ofDigitChars_ten_toDigits

theorem digitRun_append (ht : t.all isDigit) (hr : ∀ c ∈ rest.head?, isDigit c = false) :
    digitRun (t ++ rest) = (t, rest) := by
  rw [List.all_eq_true] at ht
  rw [digitRun, List.takeWhile_append_of_pos ht, List.dropWhile_append_of_pos ht]
  cases rest with
  | nil => simp
  | cons c rest => simp [hr c rfl]

structure IsWhole (whole : Text) : Prop where
  digits : whole.all isDigit
  ne_nil : whole ≠ []
  leading : whole.head? = some 0x30 → whole.length = 1

theorem whole?_append (hw : IsWhole whole) (hr : ∀ c ∈ rest.head?, isDigit c = false) :
    whole? (whole ++ rest) = some (whole, rest) := by
  rw [whole?, digitRun_append hw.digits hr]
  dsimp only
  rw [if_neg]
  rintro (h | ⟨h, hne⟩)
  · exact hw.ne_nil h
  · exact hne (hw.leading h)

theorem sign_append (hw : IsWhole whole) (t : Text) : sign (whole ++ t) = (false, whole ++ t) := by
  have hd := hw.digits
  cases whole with
  | nil => exact absurd rfl hw.ne_nil
  | cons c whole =>
    rw [List.all_cons, Bool.and_eq_true] at hd
    rw [List.cons_append, sign, if_neg]
    rintro rfl
    exact absurd hd.1 (by decide)

def pointed (fraction : Text) : Text := if fraction = [] then [] else dot :: fraction

theorem fraction?_pointed (hf : fraction.all isDigit)
    (hr : ∀ c ∈ rest.head?, isDigit c = false ∧ c ≠ dot) :
    fraction? (pointed fraction ++ rest) = some (fraction, rest) := by
  rw [pointed]
  split
  · rename_i h
    rw [h, List.nil_append]
    cases rest with
    | nil => rfl
    | cons c rest => rw [fraction?, if_neg (hr c rfl).2]
  · rename_i h
    rw [List.cons_append, fraction?, if_pos rfl, digitRun_append hf fun c hc => (hr c hc).1]
    dsimp only
    rw [if_neg h]

theorem head?_pointed (hr : ∀ c ∈ rest.head?, isDigit c = false) :
    ∀ c ∈ (pointed fraction ++ rest).head?, isDigit c = false := by
  rw [pointed]
  split
  · exact hr
  · rintro c ⟨⟩
    decide

structure IsPower (power : Text) (e : Option Int) : Prop where
  read : ∀ rest, Ends rest → power? (power ++ rest) = some (e, rest)
  head : ∀ rest, Ends rest → ∀ c ∈ (power ++ rest).head?, isDigit c = false ∧ c ≠ dot

theorem isPower_nil : IsPower [] none := by
  constructor
  · intro rest hr
    cases rest with
    | nil => rfl
    | cons c rest =>
      rw [List.nil_append, power?, if_neg]
      rcases hr c rfl with rfl | rfl | rfl <;> decide
  · intro rest hr c hc
    rcases hr c hc with rfl | rfl | rfl <;> decide

theorem isPower_mark (negative : Bool) {ds : Text} (hds : ds.all isDigit) (hne : ds ≠ []) :
    ∃ n, IsPower ((if negative then Text.ofString "e-" else Text.ofString "e+") ++ ds)
      (some n) := by
  refine ⟨if negative then -(Integer.valueOf (digitValues ds) : Int)
    else Integer.valueOf (digitValues ds), ?_, ?_⟩
  · intro rest hr
    have hrun : digitRun (ds ++ rest) = (ds, rest) := by
      apply digitRun_append hds
      intro c hc
      rcases hr c hc with rfl | rfl | rfl <;> decide
    have hunsigned : (if (((if negative then 0x2D else 0x2B) :: (ds ++ rest)).head? = some 0x2B)
        then (false, ds ++ rest) else sign ((if negative then 0x2D else 0x2B) :: (ds ++ rest))) =
          (negative, ds ++ rest) := by
      cases negative <;> rfl
    have hmark : (if negative then Text.ofString "e-" else Text.ofString "e+") ++ ds ++ rest =
        0x65 :: (if negative then 0x2D else 0x2B) :: (ds ++ rest) := by
      cases negative <;> rfl
    rw [hmark, power?, if_pos (.inl rfl)]
    dsimp only [List.drop]
    rw [hunsigned]
    dsimp only
    rw [hrun]
    dsimp only
    rw [if_neg hne]
  · intro rest hr c hc
    cases negative <;> cases hc <;> decide

structure IsNumeral (t : Text) (v : Value) : Prop where
  head : ∃ c s, t = c :: s ∧ (isDigit c ∨ c = 0x2D)
  read : ∀ rest, Ends rest → number? (t ++ rest) = some (v, rest)

theorem isNumeral_parts (negative : Bool) (hw : IsWhole whole) (hf : fraction.all isDigit)
    (hp : IsPower power e) :
    IsNumeral ((if negative then [0x2D] else []) ++ (whole ++ (pointed fraction ++ power)))
      (number negative whole fraction e) := by
  constructor
  · cases negative
    · obtain ⟨c, s, rfl⟩ := List.exists_cons_of_ne_nil hw.ne_nil
      have hd := hw.digits
      rw [List.all_cons, Bool.and_eq_true] at hd
      exact ⟨c, _, rfl, .inl hd.1⟩
    · exact ⟨0x2D, _, rfl, .inr rfl⟩
  · intro rest hr
    have hsign : sign ((if negative then [0x2D] else []) ++
        (whole ++ (pointed fraction ++ (power ++ rest)))) =
          (negative, whole ++ (pointed fraction ++ (power ++ rest))) := by
      cases negative
      · exact sign_append hw _
      · rfl
    have hhead : ∀ c ∈ (pointed fraction ++ (power ++ rest)).head?, isDigit c = false :=
      head?_pointed fun c hc => (hp.head rest hr c hc).1
    simp only [List.append_assoc]
    simp [number?, hsign, whole?_append hw hhead, fraction?_pointed hf (hp.head rest hr),
      hp.read rest hr]

theorem isWhole_digits (n : Nat) : IsWhole (Integer.digits n) where
  digits := isDigit_digits n
  ne_nil := Integer.digits_ne_nil n
  leading := by
    intro h
    cases n with
    | zero => rfl
    | succ n => exact absurd h (Integer.head?_digits (Nat.succ_pos n))

theorem number_digits (negative : Bool) (n : Nat) :
    number negative (Integer.digits n) [] none = .int (if negative then -(n : Int) else n) := by
  simp [number, valueOf_digits]

theorem isNumeral_toText (n : Int) : IsNumeral (Integer.toText n) (.int n) := by
  have hnone : List.all ([] : Text) isDigit := rfl
  have hparts (negative : Bool) :=
    isNumeral_parts negative (isWhole_digits n.natAbs) hnone isPower_nil
  simp only [number_digits, pointed, if_true, List.append_nil] at hparts
  rw [Integer.toText]
  split
  · have h := hparts true
    rwa [if_pos rfl, if_pos rfl, show -(n.natAbs : Int) = n by omega] at h
  · have h := hparts false
    rwa [if_neg Bool.false_ne_true, if_neg Bool.false_ne_true, List.nil_append,
      show (n.natAbs : Int) = n by omega] at h

structure IsDecimal (t whole fraction power : Text) (e : Option Int) : Prop where
  parts : t = whole ++ (pointed fraction ++ power)
  isWhole : IsWhole whole
  isFraction : fraction.all isDigit
  isPower : IsPower power e
  notInteger : fraction ≠ [] ∨ e ≠ none

theorem isWhole_zero : IsWhole [0x30] := ⟨by decide, by decide, by decide⟩

theorem isWhole_of_head? (ht : t.all isDigit) (hne : t ≠ []) (h : t.head? ≠ some 0x30) :
    IsWhole t := ⟨ht, hne, fun hzero => absurd hzero h⟩

theorem isDigit_zeros (n : Nat) : (List.replicate n (ofChar '0')).all isDigit := by
  rw [List.all_replicate]
  split <;> rfl

theorem pointed_of_ne_nil (h : fraction ≠ []) : pointed fraction = dot :: fraction := if_neg h

theorem isDecimal_point (hw : IsWhole whole) (hf : fraction.all isDigit) (hne : fraction ≠ []) :
    IsDecimal (whole ++ dot :: fraction) whole fraction [] none where
  parts := by rw [pointed_of_ne_nil hne, List.append_nil]
  isWhole := hw
  isFraction := hf
  isPower := isPower_nil
  notInteger := .inl hne

def scientific (ds : Text) (x : Int) : Text :=
  ds.take 1 ++ (if ds.length = 1 then [] else Text.ofString ".") ++ ds.drop 1 ++
    (if x < 0 then Text.ofString "e-" else Text.ofString "e+") ++
      (if (Integer.digits x.natAbs).length = 1 then Text.ofString "0" else []) ++
        Integer.digits x.natAbs

theorem isDecimal_scientific {ds : Text} (hw : IsWhole (ds.take 1)) (hf : (ds.drop 1).all isDigit)
    (x : Int) : ∃ whole fraction power e, IsDecimal (scientific ds x) whole fraction power e := by
  have hpad : ((if (Integer.digits x.natAbs).length = 1 then Text.ofString "0" else []) ++
      Integer.digits x.natAbs).all isDigit := by
    rw [List.all_append, isDigit_digits, Bool.and_true]
    split <;> rfl
  obtain ⟨n, hpower⟩ := isPower_mark (x < 0) hpad
    (List.append_ne_nil_of_right_ne_nil _ (Integer.digits_ne_nil _))
  have hpoint : pointed (ds.drop 1) =
      (if ds.length = 1 then [] else Text.ofString ".") ++ ds.drop 1 := by
    have hne : ds ≠ [] := by
      rintro rfl
      exact hw.ne_nil rfl
    have hlength := List.length_pos_iff.mpr hne
    rw [pointed]
    simp only [List.drop_eq_nil_iff]
    split
    · rw [if_pos (by omega), List.drop_eq_nil_iff.mpr ‹_›]
      rfl
    · rw [if_neg (by omega)]
      rfl
  refine ⟨ds.take 1, ds.drop 1, _, some n, ?_, hw, hf, hpower, .inr (by simp)⟩
  simp only [scientific, hpoint, decide_eq_true_eq, List.append_assoc]

theorem isDecimal_layout {d : Nat} (hd : 0 < d) (p : Int) :
    ∃ whole fraction power e, IsDecimal (Binary64.layout d p) whole fraction power e := by
  have hdigits := isDigit_digits d
  have hne := Integer.digits_ne_nil d
  have hhead := Integer.head?_digits hd
  simp only [Binary64.layout]
  generalize Integer.digits d = ds at *
  have hall := List.all_eq_true.mp hdigits
  have htake (n : Nat) (hn : n ≠ 0) : IsWhole (ds.take n) := by
    apply isWhole_of_head?
    · exact List.all_eq_true.mpr fun c hc => hall c (List.mem_of_mem_take hc)
    · simp [hn, hne]
    · rwa [List.head?_take, if_neg hn]
  have hdrop (n : Nat) : (ds.drop n).all isDigit :=
    List.all_eq_true.mpr fun c hc => hall c (List.mem_of_mem_drop hc)
  split
  · exact isDecimal_scientific (htake 1 (by decide)) (hdrop 1) (p + ds.length - 1)
  split
  · have hzeros : (List.replicate (-(p + ds.length)).toNat (ofChar '0') ++ ds).all isDigit := by
      rw [List.all_append, isDigit_zeros, hdigits]
      rfl
    rw [List.append_assoc]
    exact ⟨_, _, _, _, isDecimal_point isWhole_zero hzeros (by simp [hne])⟩
  split
  · have hwhole : IsWhole (ds ++ List.replicate p.toNat (ofChar '0')) := by
      apply isWhole_of_head?
      · rw [List.all_append, isDigit_zeros, hdigits]
        rfl
      · simp [hne]
      · obtain ⟨c, cs, rfl⟩ := List.exists_cons_of_ne_nil hne
        exact hhead
    exact ⟨_, _, _, _, isDecimal_point hwhole isWhole_zero.digits isWhole_zero.ne_nil⟩
  · have hfraction : ds.drop (p + ds.length).toNat ≠ [] := by
      rw [ne_eq, List.drop_eq_nil_iff]
      omega
    rw [List.append_assoc]
    exact ⟨_, _, _, _, isDecimal_point (htake _ (by omega)) (hdrop _) hfraction⟩

theorem number_decimal (negative : Bool) (whole : Text) (h : fraction ≠ [] ∨ e ≠ none) :
    ∃ x, number negative whole fraction e = .float x := by
  rw [number, if_neg]
  · exact ⟨_, rfl⟩
  · rintro ⟨rfl, rfl⟩
    simp at h

def magnitude (rank : Nat) : Text :=
  if rank = 0 then "0.0" else Binary64.layout (Binary64.shortest rank).1 (Binary64.shortest rank).2

theorem float_finite (negative : Bool) (rank : Fin (2047 * Nat.pow 2 52)) :
    float (.finite negative rank) = (if negative then [0x2D] else []) ++ magnitude rank := by
  rw [float, Binary64.toText, magnitude]
  · cases negative <;> rfl
  all_goals
    intros
    contradiction

theorem isDecimal_magnitude {rank : Nat} (h : rank < 2047 * Nat.pow 2 52) :
    ∃ whole fraction power e, IsDecimal (magnitude rank) whole fraction power e := by
  rw [magnitude]
  split
  · exact ⟨_, _, _, _, isDecimal_point isWhole_zero isWhole_zero.digits isWhole_zero.ne_nil⟩
  · rename_i hrank
    exact isDecimal_layout (Binary64.shortest_pos (Nat.pos_of_ne_zero hrank) h) _

theorem exists_isNumeral_float {x : Binary64} (h : x.isFinite) :
    ∃ y, IsNumeral (float x) (.float y) := by
  cases x with
  | finite negative rank =>
    obtain ⟨whole, fraction, power, e, hd⟩ := isDecimal_magnitude rank.isLt
    obtain ⟨y, hy⟩ := number_decimal negative whole hd.notInteger
    refine ⟨y, ?_⟩
    rw [float_finite, hd.parts, ← hy]
    exact isNumeral_parts negative hd.isWhole hd.isFraction hd.isPower
  | _ => cases h

end JsonText

end DriveBridge
