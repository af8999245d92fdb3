import DriveBridge.Disk.Basic
import DriveBridge.Numeral.Integer
import DriveBridge.Text.Utf8.Lemmas

namespace DriveBridge

namespace Integer

theorem digits_ne_nil (n : Nat) : digits n ≠ [] := by
  simp [digits]

theorem val_of_mem_digits {n : Nat} {c : CodePoint} (h : c ∈ digits n) :
    0x30 ≤ c.val ∧ c.val ≤ 0x39 := by
  obtain ⟨a, ha, rfl⟩ := List.mem_map.mp h
  have hd := Nat.isDigit_of_mem_toDigits (by decide) (by decide) ha
  simp only [Char.isDigit, Bool.and_eq_true, decide_eq_true_eq] at hd
  exact hd

theorem digits_injective {m n : Nat} (h : digits m = digits n) : m = n := by
  have hc (a b : Char) (hab : CodePoint.ofChar a = CodePoint.ofChar b) : a = b :=
    Char.toNat_inj.mp (Fin.mk.inj hab)
  have hd : Nat.toDigits 10 m = Nat.toDigits 10 n := (List.map_inj_right hc).mp h
  calc
    m = Nat.ofDigitChars 10 (Nat.toDigits 10 m) 0 := Nat.ofDigitChars_ten_toDigits.symm
    _ = Nat.ofDigitChars 10 (Nat.toDigits 10 n) 0 := by rw [hd]
    _ = n := Nat.ofDigitChars_ten_toDigits

theorem length_digits_mono {m n : Nat} (h : m ≤ n) : (digits m).length ≤ (digits n).length := by
  simp only [digits, List.length_map]
  apply (Nat.length_toDigits_le_iff (by decide) Nat.length_toDigits_pos).mpr
  have hn := (Nat.length_toDigits_le_iff (n := n) (b := 10) (by decide)
    Nat.length_toDigits_pos).mp (Nat.le_refl _)
  omega

end Integer

namespace Utf8

theorem encode_injective {s t : Text} (h : encode s = encode t) : s = t := by
  have hd := congrArg decode? h
  rw [decode?_encode, decode?_encode] at hd
  exact Option.some.inj hd

theorem octets_ascii {c : CodePoint} (h : c.val < 0x80) : octets c = [UInt8.ofNat c.val] := by
  rw [octets]
  exact if_pos h

theorem length_encode_ascii {t : Text} (h : ∀ c ∈ t, c.val < 0x80) :
    (encode t).length = t.length := by
  induction t with
  | nil => rfl
  | cons c t ih =>
    have ht := ih fun x hx => h x (List.mem_cons_of_mem _ hx)
    simp only [encode] at ht
    simp only [encode, List.flatMap_cons, List.length_append, ht,
      octets_ascii (h c List.mem_cons_self), List.length_cons, List.length_nil]
    omega

theorem le_continuation (n : Nat) : 0x80 ≤ (continuation n).toNat := by
  rw [continuation, toNat_ofNat (by omega)]
  omega

theorem le_of_mem_octets {c : CodePoint} (h : 0x80 ≤ c.val) : ∀ b ∈ octets c, 0x80 ≤ b.toNat := by
  obtain ⟨n, hn⟩ := c
  have hlead (k : Nat) (hk : 0x80 ≤ k) (hk' : k < 0x100) : 0x80 ≤ (UInt8.ofNat k).toNat := by
    rwa [toNat_ofNat hk']
  have hmore := le_continuation
  simp only [octets] at h ⊢
  rw [if_neg (by omega)]
  split
  · simp only [List.forall_mem_cons]
    exact ⟨hlead _ (by omega) (by omega), hmore _, List.forall_mem_nil _⟩
  split
  · simp only [List.forall_mem_cons]
    exact ⟨hlead _ (by omega) (by omega), hmore _, hmore _, List.forall_mem_nil _⟩
  · simp only [List.forall_mem_cons]
    exact ⟨hlead _ (by omega) (by omega), hmore _, hmore _, hmore _, List.forall_mem_nil _⟩

theorem ascii_mem_octets_iff {b : UInt8} (hb : b.toNat < 0x80) (c : CodePoint) :
    b ∈ octets c ↔ c.val = b.toNat := by
  by_cases hc : c.val < 0x80
  · rw [octets_ascii hc, List.mem_singleton, ← UInt8.toNat_inj, toNat_ofNat (by omega), eq_comm]
  · refine iff_of_false ?_ (by omega)
    intro hmem
    have := le_of_mem_octets (Nat.le_of_not_lt hc) b hmem
    omega

theorem ascii_mem_encode_iff {b : UInt8} (hb : b.toNat < 0x80) (t : Text) :
    b ∈ encode t ↔ ∃ c ∈ t, c.val = b.toNat := by
  simp only [encode, List.mem_flatMap, ascii_mem_octets_iff hb]

theorem encode_append (s t : Text) : encode (s ++ t) = encode s ++ encode t :=
  List.flatMap_append

theorem encode_join {c : CodePoint} (hc : c.val < 0x80) (pieces : List Text) :
    encode (Text.join c pieces) = [UInt8.ofNat c.val].intercalate (pieces.map encode) := by
  have hseparator : encode [c] = [UInt8.ofNat c.val] := by
    rw [encode, List.flatMap_singleton, octets_ascii hc]
  rw [Text.join]
  induction pieces with
  | nil => rfl
  | cons piece pieces ih =>
    cases pieces with
    | nil =>
      rw [List.map_singleton, List.intercalate_singleton, List.intercalate_singleton]
    | cons next rest =>
      rw [List.intercalate_cons_cons, encode_append, encode_append, hseparator, ih]
      simp only [List.map_cons, List.intercalate_cons_cons]

end Utf8

namespace SystemName

theorem encode_append (s t : Text) : encode (s ++ t) = encode s ++ encode t :=
  List.flatMap_append

theorem encode_eq_utf8 {t : Text} (h : ∀ c ∈ t, isStrayOctet c = false) :
    encode t = Utf8.encode t := by
  induction t with
  | nil => rfl
  | cons c t ih =>
    have ht := ih fun x hx => h x (List.mem_cons_of_mem _ hx)
    simp only [encode, Utf8.encode] at ht
    simp only [encode, Utf8.encode, List.flatMap_cons, ht, octets, h c List.mem_cons_self,
      Bool.false_eq_true, if_false]

theorem encode_digits (n : Nat) : encode (Integer.digits n) = Utf8.encode (Integer.digits n) := by
  apply encode_eq_utf8
  intro c hc
  have := Integer.val_of_mem_digits hc
  simp only [isStrayOctet, Bool.and_eq_false_iff, decide_eq_false_iff_not]
  omega

theorem length_encode_digits (n : Nat) :
    (encode (Integer.digits n)).length = (Integer.digits n).length := by
  rw [encode_digits]
  apply Utf8.length_encode_ascii
  intro c hc
  have := Integer.val_of_mem_digits hc
  omega

theorem octets_eq_cons {c : CodePoint} {b : UInt8} {bs : List UInt8} (h : octets c = b :: bs)
    (hb : b.toNat < 0x80) : c.val = b.toNat ∧ bs = [] := by
  by_cases hc : c.val < 0x80
  · have hs : isStrayOctet c = false := by
      simp only [isStrayOctet, Bool.and_eq_false_iff, decide_eq_false_iff_not]
      omega
    simp only [octets, hs, Bool.false_eq_true, if_false, Utf8.octets, hc, if_true,
      List.cons.injEq] at h
    obtain ⟨rfl, rfl⟩ := h
    exact ⟨(Utf8.toNat_ofNat (by omega)).symm, rfl⟩
  · -- Every other code point has no octets of ASCII or is a stray one.
    exfalso
    rw [octets] at h
    split at h
    · rename_i hstray
      simp only [isStrayOctet, Bool.and_eq_true, decide_eq_true_eq] at hstray
      rw [List.cons.injEq] at h
      rw [← h.1, Utf8.toNat_ofNat (by omega)] at hb
      omega
    · have := Utf8.le_of_mem_octets (Nat.le_of_not_lt hc) b (h ▸ List.mem_cons_self)
      omega

theorem octets_ne_nil (c : CodePoint) : octets c ≠ [] := by
  simp only [octets, Utf8.octets]
  split
  · exact List.cons_ne_nil _ _
  split
  · exact List.cons_ne_nil _ _
  split
  · exact List.cons_ne_nil _ _
  split
  · exact List.cons_ne_nil _ _
  · exact List.cons_ne_nil _ _

theorem encode_eq_nil {t : Text} (h : encode t = []) : t = [] := by
  cases t with
  | nil => rfl
  | cons c t =>
    simp only [encode, List.flatMap_cons, List.append_eq_nil_iff] at h
    exact absurd h.1 (octets_ne_nil c)

theorem encode_eq_cons {t : Text} {b : UInt8} {bs : List UInt8} (h : encode t = b :: bs)
    (hb : b.toNat < 0x80) : ∃ c rest, t = c :: rest ∧ c.val = b.toNat ∧ encode rest = bs := by
  cases t with
  | nil => cases h
  | cons c rest =>
    simp only [encode, List.flatMap_cons] at h
    cases ho : octets c with
    | nil => exact absurd ho (octets_ne_nil c)
    | cons a as =>
      rw [ho, List.cons_append, List.cons.injEq] at h
      obtain ⟨rfl, hr⟩ := h
      obtain ⟨hc, rfl⟩ := octets_eq_cons ho hb
      exact ⟨c, rest, rfl, hc, hr⟩

theorem encode_ne_twoDots {name : Text} (h : name ≠ Disk.upward) : encode name ≠ Place.twoDots := by
  intro he
  obtain ⟨c, rest, rfl, hc, hr⟩ := encode_eq_cons he (by decide)
  obtain ⟨c', rest', rfl, hc', hr'⟩ := encode_eq_cons hr (by decide)
  obtain rfl := encode_eq_nil hr'
  obtain rfl : c = CodePoint.dot := Fin.ext hc
  obtain rfl : c' = CodePoint.dot := Fin.ext hc'
  exact h rfl

end SystemName

end DriveBridge
