import Mathlib.Data.List.Forall2
import DriveBridge.Proofs.Calendar.Days
import DriveBridge.Proofs.Json.Numbers

namespace DriveBridge

namespace Integer

def digit (n : Nat) : CodePoint := CodePoint.ofChar (Nat.digitChar (n % 10))

def fixed : (places : Nat) → (n : Nat) → Text
  | 0, _ => []
  | places + 1, n => fixed places (n / 10) ++ [digit n]

variable {places m n : Nat}

theorem val_digit (n : Nat) : (digit n).val = 0x30 + n % 10 := by
  have hdigit : ∀ d < 10, (CodePoint.ofChar (Nat.digitChar d)).val = 0x30 + d := by decide
  exact hdigit _ (Nat.mod_lt n (by decide))

theorem isDigit_digit (n : Nat) : JsonText.isDigit (digit n) := by
  simp only [JsonText.isDigit, val_digit, Bool.and_eq_true, decide_eq_true_eq]
  omega

theorem length_fixed (places n : Nat) : (fixed places n).length = places := by
  induction places generalizing n with
  | zero => rfl
  | succ places ih => rw [fixed, List.length_append, ih, List.length_singleton]

theorem digits_eq_fixed (hlow : places = 0 ∨ Nat.pow 10 places ≤ n)
    (hhigh : n < Nat.pow 10 (places + 1)) : digits n = fixed (places + 1) n := by
  induction places generalizing n with
  | zero =>
    have hten : n < 10 := hhigh
    rw [digits_eq, if_pos hten, fixed, fixed, digit, Nat.mod_eq_of_lt hten]
    rfl
  | succ places ih =>
    simp only [Nat.pow_eq, Nat.pow_succ] at *
    have hten : 10 ≤ n := by
      have := Nat.pow_pos (n := places) (show 0 < 10 by decide)
      omega
    rw [digits_eq, if_neg (by omega), ih (.inr (by omega)) (by omega), fixed]
    rfl

theorem fixed_injective (hm : m < Nat.pow 10 places) (hn : n < Nat.pow 10 places)
    (h : fixed places m = fixed places n) : m = n := by
  induction places generalizing m n with
  | zero =>
    simp only [Nat.pow_eq, Nat.pow_zero] at *
    omega
  | succ places ih =>
    simp only [Nat.pow_eq, Nat.pow_succ] at *
    obtain ⟨hrest, hlast⟩ := List.append_inj' h rfl
    have hdigit := congrArg Fin.val (List.singleton_inj.mp hlast)
    have := ih (by omega) (by omega) hrest
    simp only [val_digit] at hdigit
    omega

end Integer

namespace Text

variable {s t x y : Text} {c d : CodePoint}

def isBelow (s t : Text) : Bool := s.lex t fun a b => a.val < b.val

theorem isUpTo_iff : s.isUpTo t ↔ ¬ t.isBelow s := by
  rw [isUpTo, Bool.not_eq_true', ← Bool.not_eq_true]
  rfl

theorem isBelow_cons : isBelow (c :: x) (d :: y) ↔ c.val < d.val ∨ c = d ∧ x.isBelow y := by
  simp [isBelow, List.lex]

theorem isBelow_append (h : s.length = t.length) :
    (s ++ x).isBelow (t ++ y) ↔ s.isBelow t ∨ s = t ∧ x.isBelow y := by
  induction s generalizing t with
  | nil =>
    obtain rfl := List.length_eq_zero_iff.mp h.symm
    simp [isBelow]
  | cons c s ih =>
    obtain ⟨d, t, rfl⟩ := List.exists_cons_of_length_eq_add_one h.symm
    rw [List.cons_append, List.cons_append, isBelow_cons, isBelow_cons, ih (Nat.succ.inj h)]
    grind

theorem isBelow_fixed {places m n : Nat} (hm : m < Nat.pow 10 places) (hn : n < Nat.pow 10 places) :
    isBelow (Integer.fixed places m) (Integer.fixed places n) ↔ m < n := by
  induction places generalizing m n with
  | zero =>
    simp only [Nat.pow_eq, Nat.pow_zero] at *
    obtain rfl : m = n := by omega
    simp [isBelow, Integer.fixed]
  | succ places ih =>
    have hpow : Nat.pow 10 (places + 1) = Nat.pow 10 places * 10 := rfl
    have hrest := ih (m := m / 10) (n := n / 10) (by omega) (by omega)
    have hsame : Integer.fixed places (m / 10) = Integer.fixed places (n / 10) ↔ m / 10 = n / 10 :=
      ⟨Integer.fixed_injective (by omega) (by omega), fun h => by rw [h]⟩
    rw [Integer.fixed, Integer.fixed, isBelow_append (by simp [Integer.length_fixed]), hrest, hsame,
      isBelow_cons, Integer.val_digit, Integer.val_digit]
    simp [isBelow]
    omega

theorem isBelow_fixed_append {places m n : Nat} (hm : m < Nat.pow 10 places)
    (hn : n < Nat.pow 10 places) :
    isBelow (Integer.fixed places m ++ x) (Integer.fixed places n ++ y) ↔
      m < n ∨ m = n ∧ x.isBelow y := by
  have hsame : Integer.fixed places m = Integer.fixed places n ↔ m = n :=
    ⟨Integer.fixed_injective hm hn, fun h => by rw [h]⟩
  rw [isBelow_append (by rw [Integer.length_fixed, Integer.length_fixed]), isBelow_fixed hm hn,
    hsame]

theorem isBelow_cons_self : isBelow (c :: x) (c :: y) ↔ x.isBelow y := by
  simp [isBelow_cons]

theorem not_isBelow_self : ¬ isBelow s s := by
  induction s with
  | nil => simp [isBelow]
  | cons c s ih => rwa [isBelow_cons_self]

end Text

namespace Calendar

open Integer

structure Moment where
  date : Date
  hour : Nat
  minute : Nat
  second : Nat

namespace Moment

variable {a b : Moment}

def IsValid (m : Moment) : Prop := m.date.isValid ∧ m.hour < 24 ∧ m.minute < 60 ∧ m.second < 60

def toSeconds (m : Moment) : Int :=
  m.date.toDays * 86400 + m.hour * 3600 + m.minute * 60 + m.second

def ofSeconds (seconds : Int) : Moment where
  date := .ofDays (seconds / 86400)
  hour := (seconds % 86400).toNat / 3600
  minute := (seconds % 86400).toNat / 60 % 60
  second := (seconds % 86400).toNat % 60

theorem isValid_ofSeconds (seconds : Int) : (ofSeconds seconds).IsValid := by
  refine ⟨Date.isValid_ofDays _, ?_, ?_, ?_⟩
  all_goals
    dsimp only [ofSeconds]
    omega

theorem toSeconds_ofSeconds (seconds : Int) : (ofSeconds seconds).toSeconds = seconds := by
  simp only [toSeconds, ofSeconds, Date.toDays_ofDays]
  omega

def IsBefore (a b : Moment) : Prop :=
  a.date.IsBefore b.date ∨ a.date = b.date ∧ (a.hour < b.hour ∨ a.hour = b.hour ∧
    (a.minute < b.minute ∨ a.minute = b.minute ∧ a.second < b.second))

theorem toSeconds_lt (ha : a.IsValid) (hb : b.IsValid) (h : a.IsBefore b) :
    a.toSeconds < b.toSeconds := by
  obtain ⟨hdate, hhour, hminute, hsecond⟩ := ha
  simp only [toSeconds]
  rcases h with h | ⟨hsame, h⟩
  · have := Date.toDays_lt hdate hb.1 h
    omega
  · obtain ⟨_, _, hlater, hlast⟩ := hb
    rw [hsame]
    omega

end Moment

def form : Text := "0000-00-00T00:00:00Z"

def IsStamp (t : Text) : Prop :=
  List.Forall₂ (fun c f => if f = 0x30 then JsonText.isDigit c else c = f) t form

def field (t : Text) (start places : Nat) : Nat :=
  valueOf (JsonText.digitValues ((t.drop start).take places))

namespace Moment

variable {a b : Moment}

def ofStamp (t : Text) : Moment where
  date := ⟨field t 0 4, field t 5 2, field t 8 2⟩
  hour := field t 11 2
  minute := field t 14 2
  second := field t 17 2

def stamp (m : Moment) : Text :=
  fixed 4 m.date.year.toNat ++ 0x2D :: (fixed 2 m.date.month ++ 0x2D :: (fixed 2 m.date.day ++
    0x54 :: (fixed 2 m.hour ++ 0x3A :: (fixed 2 m.minute ++ 0x3A :: (fixed 2 m.second ++ [0x5A])))))

theorem isStamp_stamp (m : Moment) : IsStamp m.stamp := by
  have hform : form = [0x30, 0x30, 0x30, 0x30, 0x2D, 0x30, 0x30, 0x2D, 0x30, 0x30, 0x54, 0x30, 0x30,
    0x3A, 0x30, 0x30, 0x3A, 0x30, 0x30, 0x5A] := rfl
  rw [IsStamp, hform]
  simp [stamp, fixed, isDigit_digit]

structure Fits (m : Moment) : Prop where
  year : 0 ≤ m.date.year ∧ m.date.year < 10000
  month : m.date.month < 100
  day : m.date.day < 100
  hour : m.hour < 100
  minute : m.minute < 100
  second : m.second < 100

theorem IsValid.fits (h : a.IsValid) (hlow : 0 ≤ a.date.year) (hhigh : a.date.year < 10000) :
    a.Fits := by
  obtain ⟨hdate, hhour, hminute, hsecond⟩ := h
  obtain ⟨hmonth, hday⟩ := Date.le_of_isValid hdate
  constructor <;> omega

theorem ofStamp_stamp (h : a.Fits) : ofStamp a.stamp = a := by
  obtain ⟨⟨year, month, day⟩, hour, minute, second⟩ := a
  obtain ⟨hyear, hmonth, hday, hhour, hminute, hsecond⟩ := h
  dsimp only at *
  simp [ofStamp, field, stamp, fixed, valueOf, JsonText.digitValues, val_digit]
  omega

theorem isBelow_stamp (ha : a.Fits) (hb : b.Fits) : a.stamp.isBelow b.stamp ↔ a.IsBefore b := by
  obtain ⟨⟨year, month, day⟩, hour, minute, second⟩ := a
  obtain ⟨⟨year', month', day'⟩, hour', minute', second'⟩ := b
  obtain ⟨hyear, hmonth, hday, hhour, hminute, hsecond⟩ := ha
  obtain ⟨hyear', hmonth', hday', hhour', hminute', hsecond'⟩ := hb
  dsimp only at *
  have htwo {n : Nat} (h : n < 100) : n < Nat.pow 10 2 := h
  have hfour {n : Int} (h : 0 ≤ n ∧ n < 10000) : n.toNat < Nat.pow 10 4 :=
    show n.toNat < 10000 by omega
  rw [stamp, stamp, Text.isBelow_fixed_append (hfour hyear) (hfour hyear'),
    Text.isBelow_cons_self, Text.isBelow_fixed_append (htwo hmonth) (htwo hmonth'),
    Text.isBelow_cons_self, Text.isBelow_fixed_append (htwo hday) (htwo hday'),
    Text.isBelow_cons_self, Text.isBelow_fixed_append (htwo hhour) (htwo hhour'),
    Text.isBelow_cons_self, Text.isBelow_fixed_append (htwo hminute) (htwo hminute'),
    Text.isBelow_cons_self, Text.isBelow_fixed_append (htwo hsecond) (htwo hsecond'),
    iff_false_intro Text.not_isBelow_self]
  have hless : year.toNat < year'.toNat ↔ year < year' := by omega
  have hsame : year.toNat = year'.toNat ↔ year = year' := by omega
  simp only [IsBefore, Date.IsBefore, Date.mk.injEq, hless, hsame]
  grind

end Moment

variable {seconds later : Int}

theorem padTwo_eq {n : Nat} (h : n < 100) : padTwo n = fixed 2 n := by
  rw [padTwo]
  split
  · rename_i hten
    have hzero : n / 10 = 0 := by omega
    have hdigits : digits n = fixed 1 n := digits_eq_fixed (.inl rfl) hten
    rw [hdigits, fixed, fixed, fixed, fixed, hzero]
    rfl
  · rename_i hten
    apply digits_eq_fixed (.inr _) h
    exact Nat.not_lt.mp hten

theorem toText_year {year : Int} (hlow : 1000 ≤ year) (hhigh : year < 10000) :
    toText year = fixed 4 year.toNat := by
  have hthree : Nat.pow 10 3 ≤ year.toNat := show 1000 ≤ year.toNat by omega
  have hfour : year.toNat < Nat.pow 10 4 := show year.toNat < 10000 by omega
  have habs : year.natAbs = year.toNat := by omega
  rw [toText, if_neg (by omega), habs, digits_eq_fixed (.inr hthree) hfour]

theorem stamp_eq (hlow : 1000 ≤ (Moment.ofSeconds seconds).date.year)
    (hhigh : (Moment.ofSeconds seconds).date.year < 10000) :
    stamp seconds = (Moment.ofSeconds seconds).stamp := by
  have hfits := (Moment.isValid_ofSeconds seconds).fits (by omega) hhigh
  have hyear := toText_year hlow hhigh
  have hmonth := padTwo_eq hfits.month
  have hday := padTwo_eq hfits.day
  have hhour := padTwo_eq hfits.hour
  have hminute := padTwo_eq hfits.minute
  have hsecond := padTwo_eq hfits.second
  rw [Moment.stamp, ← hyear, ← hmonth, ← hday, ← hhour, ← hminute, ← hsecond]
  simp only [stamp, Moment.ofSeconds, List.append_assoc]
  rfl

def horizon : Int := (Date.mk 10000 1 1).toDays * 86400

def Shows (t : Text) (seconds : Int) : Prop :=
  IsStamp t ∧ (Moment.ofStamp t).IsValid ∧ (Moment.ofStamp t).toSeconds = seconds

theorem year_bounds (hstart : 0 ≤ seconds) (hend : seconds < horizon) :
    1970 ≤ (Moment.ofSeconds seconds).date.year ∧ (Moment.ofSeconds seconds).date.year < 10000 := by
  have hvalid := Date.isValid_ofDays (seconds / 86400)
  have hepoch : (Date.mk 1970 1 1).toDays = 0 := by decide
  rw [horizon] at hend
  constructor
  · have hnot : ¬ (Date.ofDays (seconds / 86400)).year < 1970 := by
      rw [Date.year_lt_iff hvalid, Date.toDays_ofDays, hepoch]
      omega
    exact Int.not_lt.mp hnot
  · apply (Date.year_lt_iff hvalid).mpr
    rw [Date.toDays_ofDays]
    omega

theorem hasStamp_of_lt (hstart : 0 ≤ seconds) (hend : seconds < horizon) : hasStamp seconds := by
  obtain ⟨hlow, hhigh⟩ := year_bounds hstart hend
  dsimp only [Moment.ofSeconds] at hlow hhigh
  simp only [hasStamp, Bool.and_eq_true, decide_eq_true_eq]
  omega

theorem fits_ofSeconds (hstart : 0 ≤ seconds) (hend : seconds < horizon) :
    (Moment.ofSeconds seconds).Fits := by
  obtain ⟨hlow, hhigh⟩ := year_bounds hstart hend
  exact (Moment.isValid_ofSeconds seconds).fits (by omega) hhigh

theorem stamp_eq_of_lt (hstart : 0 ≤ seconds) (hend : seconds < horizon) :
    stamp seconds = (Moment.ofSeconds seconds).stamp := by
  obtain ⟨hlow, hhigh⟩ := year_bounds hstart hend
  exact stamp_eq (by omega) hhigh

theorem shows_stamp (hstart : 0 ≤ seconds) (hend : seconds < horizon) :
    Shows (stamp seconds) seconds := by
  rw [stamp_eq_of_lt hstart hend, Shows, Moment.ofStamp_stamp (fits_ofSeconds hstart hend)]
  exact ⟨Moment.isStamp_stamp _, Moment.isValid_ofSeconds seconds, Moment.toSeconds_ofSeconds seconds⟩

theorem isUpTo_stamp (hstart : 0 ≤ seconds) (hle : seconds ≤ later) (hend : later < horizon) :
    (stamp seconds).isUpTo (stamp later) := by
  have hlater : 0 ≤ later := by omega
  have hbefore : seconds < horizon := by omega
  rw [Text.isUpTo_iff, stamp_eq_of_lt hstart hbefore, stamp_eq_of_lt hlater hend,
    Moment.isBelow_stamp (fits_ofSeconds hlater hend) (fits_ofSeconds hstart hbefore)]
  intro h
  have := Moment.toSeconds_lt (Moment.isValid_ofSeconds later) (Moment.isValid_ofSeconds seconds) h
  rw [Moment.toSeconds_ofSeconds, Moment.toSeconds_ofSeconds] at this
  omega

end Calendar

end DriveBridge
