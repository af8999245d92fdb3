import DriveBridge.Text.Utf8

namespace DriveBridge.Utf8

theorem toNat_ofNat {n : Nat} (h : n < 0x100) : (UInt8.ofNat n).toNat = n := by
  rw [UInt8.toNat_ofNat', Nat.mod_eq_of_lt h]

theorem bits?_continuation (n : Nat) : bits? (continuation n) = some (n % 0x40) := by
  have hn : n % 0x40 < 0x40 := Nat.mod_lt n (by decide)
  unfold bits? continuation
  rw [toNat_ofNat (by omega), if_pos (by omega), Nat.add_sub_cancel_left]

theorem first?_cons (form : Form) (tails : List UInt8) (bits : List Nat) {lead : UInt8}
    {rest : List UInt8} {c : CodePoint} (hf : form? lead = some form)
    (hl : tails.length = form.more) (hb : tails.mapM bits? = some bits)
    (hp : point? form lead bits = some c) : first? (lead :: (tails ++ rest)) = some (c, rest) := by
  simp only [first?, hf, ← hl, List.take_left', List.drop_left', hb, hp, Option.bind_eq_bind,
    Option.bind_some, Option.pure_def]

theorem first?_octets (c : CodePoint) (rest : List UInt8) :
    first? (octets c ++ rest) = some (c, rest) := by
  obtain ⟨n, hn⟩ := c
  unfold octets
  dsimp only
  split
  · refine first?_cons ⟨0, 0, 0⟩ [] [] ?_ rfl rfl ?_
    · unfold form?
      rw [toNat_ofNat (by omega)]
      exact if_pos (by assumption)
    · simp [point?, toNat_ofNat (show n < 0x100 by omega), hn]
  split
  · refine first?_cons ⟨0xC0, 0x80, 1⟩ [_] [n % 0x40] ?_ rfl ?_ ?_
    · unfold form?
      dsimp only
      rw [toNat_ofNat (by omega), if_neg (by omega), if_neg (by omega), if_pos (by omega)]
    · simp [bits?_continuation]
    · have hv : n / 0x40 * 0x40 + n % 0x40 = n := by omega
      have hl : 0xC0 + n / 0x40 < 0x100 := by omega
      simp only [point?, toNat_ofNat hl, List.foldl_cons, List.foldl_nil, Nat.add_sub_cancel_left,
        hv, hn, dite_true, List.length_cons, List.length_nil]
      exact if_pos ⟨trivial, by omega⟩
  split
  · refine first?_cons ⟨0xE0, 0x800, 2⟩ [_, _]
      [n / 0x40 % 0x40, n % 0x40] ?_ rfl ?_ ?_
    · unfold form?
      dsimp only
      rw [toNat_ofNat (by omega), if_neg (by omega), if_neg (by omega), if_neg (by omega),
        if_pos (by omega)]
    · simp [bits?_continuation]
    · have hv : (n / 0x1000 * 0x40 + n / 0x40 % 0x40) * 0x40 + n % 0x40 = n := by omega
      have hl : 0xE0 + n / 0x1000 < 0x100 := by omega
      simp only [point?, toNat_ofNat hl, List.foldl_cons, List.foldl_nil, Nat.add_sub_cancel_left,
        hv, hn, dite_true, List.length_cons, List.length_nil]
      exact if_pos ⟨trivial, by omega⟩
  · refine first?_cons ⟨0xF0, 0x10000, 3⟩ [_, _, _]
      [n / 0x1000 % 0x40, n / 0x40 % 0x40, n % 0x40] ?_ rfl ?_ ?_
    · unfold form?
      dsimp only
      rw [toNat_ofNat (by omega), if_neg (by omega), if_neg (by omega), if_neg (by omega),
        if_neg (by omega), if_pos (by omega)]
    · simp [bits?_continuation]
    · have hv : ((n / 0x40000 * 0x40 + n / 0x1000 % 0x40) * 0x40 + n / 0x40 % 0x40) * 0x40 +
          n % 0x40 = n := by omega
      have hl : 0xF0 + n / 0x40000 < 0x100 := by omega
      simp only [point?, toNat_ofNat hl, List.foldl_cons, List.foldl_nil, Nat.add_sub_cancel_left,
        hv, hn, dite_true, List.length_cons, List.length_nil]
      exact if_pos ⟨trivial, by omega⟩

theorem decode?_nil : decode? [] = some [] := by
  rw [decode?]
  rfl

theorem decode?_of_first? {octets rest : List UInt8} {c : CodePoint}
    (h : first? octets = some (c, rest)) : decode? octets = (decode? rest).map (c :: ·) := by
  rw [decode?]
  split
  · rename_i d rest' hd
    rw [h] at hd
    obtain ⟨rfl, rfl⟩ := Prod.mk.inj (Option.some.inj hd)
    rfl
  · rename_i hd
    rw [h] at hd
    contradiction

theorem decode?_encode (t : Text) : decode? (encode t) = some t := by
  induction t with
  | nil => exact decode?_nil
  | cons c t ih =>
    have h : first? (encode (c :: t)) = some (c, encode t) := first?_octets c (encode t)
    rw [decode?_of_first? h, ih]
    rfl
end DriveBridge.Utf8
