import DriveBridge.Text.LowerCase

/-!
Words of plain ASCII among the small forms of texts. But for the letter k, which the Kelvin sign has
for its small form, nothing outside of ASCII becomes a part of such a word, so a text has the word
for its small form exactly if it is that word up to the case of ASCII letters.
-/

namespace DriveBridge

namespace CodePoint

def asciiLower (c : CodePoint) : CodePoint :=
  if 0x41 ≤ c.val ∧ c.val ≤ 0x5A then c + 0x20 else c

/-- An ASCII code point that is its own small form and, but for a capital ASCII letter, that of no
other. -/
def isSteady (c : CodePoint) : Bool :=
  c.val < 0x80 && !(0x41 ≤ c.val && c.val ≤ 0x5A) && c != 0x6B

variable {c : CodePoint}

theorem lower_ascii (h : c.val < 0x80) : c.lower = [c.asciiLower] := by
  have hall : ∀ n : Fin 0x80,
      lower (n.castLE (by decide)) = [asciiLower (n.castLE (by decide))] := by
    decide +kernel
  exact hall ⟨c.val, h⟩

theorem asciiLower_of_isSteady (h : c.isSteady) : c.asciiLower = c := by
  simp only [isSteady, Bool.and_eq_true, Bool.not_eq_true', Bool.and_eq_false_iff,
    decide_eq_false_iff_not] at h
  rw [asciiLower, if_neg (by omega)]

theorem asciiLower_of_le (h : 0x80 ≤ c.val) : c.asciiLower = c := by
  rw [asciiLower, if_neg (by omega)]

theorem not_isSteady_of_le (h : 0x80 ≤ c.val) : ¬ c.isSteady := by
  simp only [isSteady, Bool.and_eq_true, decide_eq_true_eq, not_and]
  intro hsmall
  omega

theorem run_beyond : ∀ run ∈ LowerRun.all, run.last < 0x80 ∨
    (run.first = 0x212A ∧ run.last = 0x212A ∧ run.shift = 0x6B - 0x212A) ∨
    (0x80 ≤ run.first + run.shift ∧ run.last + run.shift < 0x110000) := by
  decide +kernel

theorem exists_mem_lower (h : 0x80 ≤ c.val) : ∃ x ∈ c.lower, ¬ x.isSteady := by
  rw [lower]
  split
  · exact ⟨0x307, List.mem_cons_of_mem _ List.mem_cons_self, by decide⟩
  split
  · rename_i run hfound
    refine ⟨_, List.mem_singleton_self _, ?_⟩
    have hcovers := List.find?_some hfound
    simp only [LowerRun.covers, Bool.and_eq_true, decide_eq_true_eq] at hcovers
    obtain ⟨⟨hfirst, hlast⟩, _⟩ := hcovers
    rcases run_beyond run (List.mem_of_find?_eq_some hfound) with hrun | hrun | hrun
    · omega
    · have hkelvin : ((c.val : Int) + run.shift).toNat = 0x6B := by omega
      rw [hkelvin]
      decide
    · apply not_isSteady_of_le
      rw [Fin.val_ofNat, Nat.mod_eq_of_lt (by omega)]
      omega
  · exact ⟨c, List.mem_singleton_self c, not_isSteady_of_le h⟩

end CodePoint

namespace Text

open CodePoint

variable {t w : Text}

def IsLike (t w : Text) : Prop := t.map asciiLower = w.map asciiLower

instance : Decidable (IsLike t w) := inferInstanceAs (Decidable (_ = _))

theorem map_asciiLower_of_isSteady (hw : ∀ c ∈ w, c.isSteady) : w.map asciiLower = w := by
  rw [List.map_congr_left fun c hc => asciiLower_of_isSteady (hw c hc), List.map_id']

theorem exists_mem_lowerFrom {c : CodePoint} (hc : 0x80 ≤ c.val) (casedBefore : Bool) :
    ∃ x ∈ lowerFrom casedBefore (c :: t), ¬ x.isSteady := by
  have hhere : ∃ x ∈ (if c = capitalSigma then
      if casedBefore && !casedAhead t then [finalSigma] else [smallSigma]
      else c.lower), ¬ x.isSteady := by
    split
    · split
      · exact ⟨finalSigma, List.mem_singleton_self _, by decide⟩
      · exact ⟨smallSigma, List.mem_singleton_self _, by decide⟩
    · exact exists_mem_lower hc
  obtain ⟨x, hx, hforeign⟩ := hhere
  exact ⟨x, List.mem_append_left _ hx, hforeign⟩

theorem lowerFrom_eq_iff (hw : ∀ c ∈ w, c.isSteady) (casedBefore : Bool) :
    lowerFrom casedBefore t = w ↔ t.map asciiLower = w := by
  induction t generalizing w casedBefore with
  | nil => rfl
  | cons c t ih =>
    by_cases hc : c.val < 0x80
    · have hsigma : c ≠ capitalSigma := by
        rintro rfl
        exact absurd hc (by decide)
      rw [lowerFrom, if_neg hsigma, lower_ascii hc, List.map_cons, List.singleton_append]
      cases w with
      | nil => simp
      | cons first w =>
        rw [List.cons.injEq, List.cons.injEq]
        exact and_congr_right fun _ => ih (fun c hc => hw c (List.mem_cons_of_mem _ hc)) _
    · -- What stands for `c` is no part of `w` on either side.
      have hc := Nat.le_of_not_lt hc
      constructor
      · intro h
        obtain ⟨x, hx, hforeign⟩ := exists_mem_lowerFrom (t := t) hc casedBefore
        exact absurd (hw x (h ▸ hx)) hforeign
      · intro h
        have hmem : c ∈ w := by
          rw [← h, List.map_cons, asciiLower_of_le hc]
          exact List.mem_cons_self
        exact absurd (hw c hmem) (not_isSteady_of_le hc)

theorem lower_eq_iff (hw : ∀ c ∈ w, c.isSteady) : lower t = w ↔ t.IsLike w := by
  rw [lower, lowerFrom_eq_iff hw, IsLike, map_asciiLower_of_isSteady hw]

theorem IsLike.lt_of_mem (h : t.IsLike w) (hw : ∀ c ∈ w, c.isSteady) {c : CodePoint}
    (hc : c ∈ t) : c.val < 0x80 := by
  rw [IsLike, map_asciiLower_of_isSteady hw] at h
  apply Nat.lt_of_not_le
  intro hbeyond
  have hmem : c.asciiLower ∈ t.map asciiLower := List.mem_map_of_mem hc
  rw [h, asciiLower_of_le hbeyond] at hmem
  exact not_isSteady_of_le hbeyond (hw c hmem)

theorem lower_mem_iff {words : List Text} (hw : ∀ w ∈ words, ∀ c ∈ w, c.isSteady) :
    lower t ∈ words ↔ ∃ w ∈ words, t.IsLike w := by
  constructor
  · intro h
    exact ⟨lower t, h, (lower_eq_iff (hw _ h)).mp rfl⟩
  · rintro ⟨w, hmem, hlike⟩
    rwa [(lower_eq_iff (hw w hmem)).mpr hlike]

end Text

end DriveBridge
