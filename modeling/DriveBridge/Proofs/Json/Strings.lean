import DriveBridge.Proofs.Json.Printable
import DriveBridge.Proofs.Json.Reader

namespace DriveBridge

namespace Text

def isUnpaired : Text → Bool
  | a :: b :: t => !(a.isHigh && b.isLow) && isUnpaired (b :: t)
  | _ => true

theorem isUnpaired_tail {c : CodePoint} {t : Text} (h : isUnpaired (c :: t)) : isUnpaired t := by
  cases t with
  | nil => rfl
  | cons d t =>
    rw [isUnpaired, Bool.and_eq_true] at h
    exact h.2

theorem isUnpaired_suffix {s t : Text} (h : isUnpaired (s ++ t)) : isUnpaired t := by
  induction s with
  | nil => exact h
  | cons c s ih => exact ih (isUnpaired_tail h)

theorem isUnpaired_append {s t : Text} (hs : ∀ c ∈ s, c.isHigh = false) (ht : isUnpaired t) :
    isUnpaired (s ++ t) := by
  induction s with
  | nil => exact ht
  | cons c s ih =>
    rw [List.forall_mem_cons] at hs
    have hst := ih hs.2
    rw [List.cons_append]
    generalize s ++ t = u at hst ⊢
    cases u with
    | nil => rfl
    | cons d u =>
      rw [isUnpaired, hs.1, hst]
      rfl

theorem IsPrintable.isHigh_eq_false {t : Text} (h : t.IsPrintable) : ∀ c ∈ t, c.isHigh = false := by
  intro c hc
  have := (h c hc).2
  simp only [CodePoint.isHigh, Bool.and_eq_false_iff, decide_eq_false_iff_not]
  omega

theorem IsPrintable.isUnpaired {t : Text} (h : t.IsPrintable) : isUnpaired t := by
  rw [← List.append_nil t]
  exact isUnpaired_append h.isHigh_eq_false rfl

end Text

namespace JsonText

open CodePoint

variable {c e d : CodePoint} {t rest : Text}

def halves (c : CodePoint) : Text := (Utf16.units c).map fun u => Fin.ofNat 0x110000 u.toNat

theorem halves_of_lt (h : c.val < 0x10000) : halves c = [c] := by
  simp only [halves, Utf16.units, h, if_true, List.map_cons, List.map_nil, List.cons.injEq,
    and_true]
  apply Fin.ext
  simp only [Fin.ofNat, Nat.toUInt16, UInt16.toNat_ofNat']
  omega

theorem halves_of_le (h : 0x10000 ≤ c.val) :
    ∃ high low : CodePoint,
      halves c = [high, low] ∧ high.isHigh ∧ low.isLow ∧ pair high low = c := by
  have hc : ¬ c.val < 0x10000 := by omega
  refine ⟨_, _, by simp only [halves, Utf16.units, hc, if_false, List.map_cons, List.map_nil]; rfl,
    ?_, ?_, ?_⟩
  · simp only [isHigh, Fin.ofNat, Nat.toUInt16, UInt16.toNat_ofNat', Bool.and_eq_true,
      decide_eq_true_eq]
    omega
  · simp only [isLow, Fin.ofNat, Nat.toUInt16, UInt16.toNat_ofNat', Bool.and_eq_true,
      decide_eq_true_eq]
    omega
  · apply Fin.ext
    simp only [pair, Fin.ofNat, Nat.toUInt16, UInt16.toNat_ofNat']
    omega

theorem not_isLow_of_isHigh (h : c.isHigh) : c.isLow = false := by
  simp only [isHigh, isLow, Bool.and_eq_true, decide_eq_true_eq, Bool.and_eq_false_iff,
    decide_eq_false_iff_not] at h ⊢
  omega

theorem exists_halves_eq_cons (c : CodePoint) :
    ∃ d t, halves c = d :: t ∧ (d.isLow → d = c) := by
  by_cases hc : c.val < 0x10000
  · exact ⟨c, [], halves_of_lt hc, fun _ => rfl⟩
  · obtain ⟨high, low, hhalves, hhigh, _, _⟩ := halves_of_le (Nat.le_of_not_lt hc)
    refine ⟨high, [low], hhalves, ?_⟩
    intro hlow
    rw [not_isLow_of_isHigh hhigh] at hlow
    cases hlow

theorem joinPairs_cons (h : Text.isUnpaired (c :: t)) :
    joinPairs (c :: t.flatMap halves) = c :: joinPairs (t.flatMap halves) := by
  cases t with
  | nil => rfl
  | cons d t =>
    rw [Text.isUnpaired, Bool.and_eq_true, Bool.not_eq_true', Bool.and_eq_false_iff] at h
    obtain ⟨e, s, hs, he⟩ := exists_halves_eq_cons d
    have hpair : (c.isHigh && e.isLow) = false := by
      rw [Bool.and_eq_false_iff]
      rcases h.1 with hc | hd
      · exact .inl hc
      · right
        cases hlow : e.isLow with
        | false => rfl
        | true => rw [← hlow, he hlow, hd]
    rw [List.flatMap_cons, hs, List.cons_append, joinPairs, hpair]
    rfl

theorem joinPairs_halves (h : t.isUnpaired) : joinPairs (t.flatMap halves) = t := by
  induction t with
  | nil => rfl
  | cons c t ih =>
    have ih := ih (Text.isUnpaired_tail h)
    rw [List.flatMap_cons]
    by_cases hc : c.val < 0x10000
    · rw [halves_of_lt hc, List.singleton_append, joinPairs_cons h, ih]
    · obtain ⟨high, low, hhalves, hhigh, hlow, hpair⟩ := halves_of_le (Nat.le_of_not_lt hc)
      simp [hhalves, joinPairs, hhigh, hlow, hpair, ih]

theorem content?_quote (rest : Text) : content? (quote :: rest) = some ([], rest) := by
  simp [content?.eq_def]

theorem content?_plain (hc : 0x20 ≤ c.val ∧ c.val ≤ 0x7E) (hq : c ≠ quote) (hb : c ≠ backslash)
    (t : Text) : content? (c :: t) = (content? t).map (prepend [c]) := by
  have hs : ¬ (c.val < 0x20 ∨ c.isSurrogate) := by
    simp only [isSurrogate, Bool.and_eq_true, decide_eq_true_eq]
    omega
  rw [content?.eq_def]
  dsimp only
  rw [if_neg hq, if_neg hb, if_neg hs]

theorem content?_named (h : named? e = some d) (t : Text) :
    content? (backslash :: e :: t) = (content? t).map (prepend [d]) := by
  have hu : e ≠ 0x75 := by
    rintro rfl
    cases h
  rw [content?.eq_def]
  dsimp only
  rw [if_neg (by decide), if_pos rfl, if_neg hu, h]
  rfl

theorem content?_number {i j k l : CodePoint} {u : Nat} (h : hexadecimal? [i, j, k, l] = some u)
    (t : Text) : content? (backslash :: 0x75 :: i :: j :: k :: l :: t) =
      (content? t).map (prepend [Fin.ofNat 0x110000 u]) := by
  rw [content?.eq_def]
  dsimp only
  rw [if_neg (by decide), if_pos rfl, if_pos rfl, h]
  rfl

theorem hexDigit?_digit (n : Nat) : hexDigit? (Hexadecimal.digit n) = some (n % 16) := by
  have hd : ∀ k < 16, hexDigit? (ofChar (Nat.digitChar k)) = some k := by decide
  exact hd _ (Nat.mod_lt n (by decide))

theorem content?_unitEscape (u : UInt16) (t : Text) :
    content? (unitEscape u ++ t) = (content? t).map (prepend [Fin.ofNat 0x110000 u.toNat]) := by
  have hu := u.toNat_lt
  apply content?_number
  simp only [hexadecimal?, List.foldlM_cons, List.foldlM_nil, hexDigit?_digit, Option.map_some,
    Option.bind_some, Option.pure_def, Option.bind_eq_bind]
  congr 1
  omega

theorem prepend_append (s t : Text) : prepend (s ++ t) = prepend s ∘ prepend t := by
  funext read
  simp [prepend]

theorem content?_flatMap_unitEscape (us : List UInt16) (t : Text) :
    content? (us.flatMap unitEscape ++ t) =
      (content? t).map (prepend (us.map fun u => Fin.ofNat 0x110000 u.toNat)) := by
  induction us with
  | nil => exact Option.map_id'.symm
  | cons u us ih =>
    rw [List.flatMap_cons, List.append_assoc, content?_unitEscape, ih, Option.map_map,
      ← prepend_append]
    rfl

def named : Text := [quote, backslash, 0x08, 0x09, 0x0A, 0x0C, 0x0D]

theorem escape_of_mem (h : c ∈ named) : ∃ e, escape c = [backslash, e] ∧ named? e = some c := by
  simp only [named, List.mem_cons, List.not_mem_nil, or_false] at h
  rcases h with rfl | rfl | rfl | rfl | rfl | rfl | rfl
  all_goals exact ⟨_, rfl, by decide⟩

theorem escape_of_not_mem (h : c ∉ named) : escape c =
    if 0x20 ≤ c.val ∧ c.val ≤ 0x7E then [c] else (Utf16.units c).flatMap unitEscape := by
  simp only [named, List.mem_cons, List.not_mem_nil, or_false, not_or] at h
  simp [escape, h]

theorem content?_escape (c : CodePoint) (t : Text) :
    content? (escape c ++ t) = (content? t).map (prepend (halves c)) := by
  by_cases hnamed : c ∈ named
  · obtain ⟨e, he, hc⟩ := escape_of_mem hnamed
    have hlt : c.val < 0x10000 := by
      have hall : named.all (·.val < 0x10000) := by decide
      exact of_decide_eq_true (List.all_eq_true.mp hall c hnamed)
    rw [he, halves_of_lt hlt]
    exact content?_named hc t
  rw [escape_of_not_mem hnamed]
  split
  · rename_i hc
    simp only [named, List.mem_cons, not_or] at hnamed
    rw [halves_of_lt (by omega)]
    exact content?_plain hc hnamed.1 hnamed.2.1 t
  · exact content?_flatMap_unitEscape (Utf16.units c) t

theorem content?_flatMap_escape (t rest : Text) :
    content? (t.flatMap escape ++ quote :: rest) = some (t.flatMap halves, rest) := by
  induction t with
  | nil => exact content?_quote rest
  | cons c t ih =>
    rw [List.flatMap_cons, List.append_assoc, content?_escape, ih]
    rfl

theorem string?_escaped (h : t.isUnpaired) (rest : Text) :
    string? (t.flatMap escape ++ quote :: rest) = some (t, rest) := by
  rw [string?, content?_flatMap_escape, Option.map_some]
  dsimp only
  rw [joinPairs_halves h]

-- Without the condition, the two halves of a pair come back as one code point.
example : string? (List.flatMap escape [0xD83D, 0xDE00] ++ [quote]) =
    some (Text.ofString "😀", []) := by cbv

end JsonText

end DriveBridge
