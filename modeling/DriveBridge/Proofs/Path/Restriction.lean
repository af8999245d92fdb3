import DriveBridge.Proofs.Path.Conversion

namespace DriveBridge

open CodePoint

def Text.HasForeignPrefix (t : Text) : Prop :=
  ∃ a b rest, t = a :: b :: rest ∧
    (a.isAsciiLetter ∧ b = 0x3A ∨ a.isSeparator ∧ b.isSeparator)

namespace Text

def HasDrive (t : Text) : Prop := ∃ a rest, t = a :: 0x3A :: rest ∧ a.isAsciiLetter

def HasTwoSeparators (t : Text) : Prop :=
  ∃ a b rest, t = a :: b :: rest ∧ a.isSeparator ∧ b.isSeparator

theorem hasForeignPrefix_iff (t : Text) :
    t.HasForeignPrefix ↔ t.HasDrive ∨ t.HasTwoSeparators := by
  constructor
  · rintro ⟨a, b, rest, rfl, ⟨ha, rfl⟩ | hab⟩
    · exact .inl ⟨a, rest, rfl, ha⟩
    · exact .inr ⟨a, b, rest, rfl, hab⟩
  · rintro (⟨a, rest, rfl, ha⟩ | ⟨a, b, rest, rfl, hab⟩)
    · exact ⟨a, 0x3A, rest, rfl, .inl ⟨ha, rfl⟩⟩
    · exact ⟨a, b, rest, rfl, .inr hab⟩

end Text

namespace ClientPath

theorem isRestricted_eq_false_iff (p : ClientPath) :
    p.isRestricted = false ↔ p.text.HasForeignPrefix := by
  have hnor (x y : Bool) : (!x && !y) = false ↔ x ∨ y := by
    cases x <;> cases y <;> decide
  obtain ⟨t⟩ := p
  rw [isRestricted, Text.HasForeignPrefix]
  match t with
  | [] => simp
  | [_] => simp
  | a :: b :: rest =>
    dsimp only
    rw [hnor, Bool.and_eq_true, Bool.and_eq_true, beq_iff_eq]
    constructor
    · intro h
      exact ⟨a, b, rest, rfl, h⟩
    · rintro ⟨_, _, _, ⟨⟩, h⟩
      exact h

theorem isRestricted_iff (p : ClientPath) :
    p.isRestricted ↔ ¬ p.text.HasTwoSeparators ∧ ¬ p.text.HasDrive := by
  rw [← Bool.not_eq_false, isRestricted_eq_false_iff, Text.hasForeignPrefix_iff, not_or, and_comm]

theorem head?_toHost_eq_slash_iff (p : ClientPath) :
    p.toHost.text.head? = some slash ↔ p.text.HasTwoSeparators := by
  obtain ⟨t⟩ := p
  rw [toHost, Text.HasTwoSeparators]
  cases t with
  | nil => simp [dropRoot]
  | cons a t =>
    rw [Text.replace_cons]
    by_cases ha : a.isSeparator
    · -- Conversion drops `a`, so the host path begins with what comes next.
      rw [(Text.replaced_eq_slash_iff a).mpr ha, dropRoot_slash]
      cases t with
      | nil => simp
      | cons b rest =>
        rw [Text.replace_cons, List.head?_cons, Option.some.injEq, Text.replaced_eq_slash_iff]
        constructor
        · intro hb
          exact ⟨a, b, rest, rfl, ha, hb⟩
        · rintro ⟨_, _, _, ⟨⟩, _, hb⟩
          exact hb
    · have hslash := mt (Text.replaced_eq_slash_iff a).mp ha
      rw [dropRoot_of_head (by simpa using hslash), List.head?_cons, Option.some.injEq]
      refine iff_of_false hslash ?_
      rintro ⟨_, _, _, ⟨⟩, h, _⟩
      exact ha h

theorem backslash_not_mem_toHost (p : ClientPath) : backslash ∉ p.toHost.text := by
  intro hm
  exact Text.not_mem_replace (by decide) p.text (mem_of_mem_dropRoot hm)

theorem head?_toHost_any_isSeparator (p : ClientPath) :
    p.toHost.text.head?.any isSeparator ↔ p.toHost.text.head? = some slash := by
  have hback := p.backslash_not_mem_toHost
  cases h : p.toHost.text with
  | nil => simp
  | cons c t =>
    rw [h, List.mem_cons, not_or] at hback
    have hc : c ≠ backslash := fun e => hback.1 e.symm
    simp [isSeparator, hc]

end ClientPath

namespace HostPath

theorem not_hasDrive_toClient (p : HostPath) : ¬ p.toClient.text.HasDrive := by
  rintro ⟨a, rest, h, ha⟩
  obtain ⟨rfl, _⟩ := List.cons.inj h
  exact absurd ha (by decide)

theorem hasTwoSeparators_toClient_iff (p : HostPath) :
    p.toClient.text.HasTwoSeparators ↔ p.text.head?.any isSeparator := by
  rw [← ClientPath.head?_toHost_eq_slash_iff, toHost_toClient]
  cases p.text with
  | nil => simp
  | cons c t =>
    rw [Text.replace_cons, List.head?_cons, Option.some.injEq, Text.replaced_eq_slash_iff]
    rfl

end HostPath

/-- Of the paths without a drive letter the restricted ones are those that stay below the shared
root on the host, and a path of the host comes back restricted if it stays below it as well. -/
theorem ClientPath.isRestricted_iff_relative (p : ClientPath) (q : HostPath) :
    (p.toHost.text.head? = some slash ↔ p.text.HasTwoSeparators) ∧
    (p.isRestricted ↔ p.toHost.text.head? ≠ some slash ∧ ¬ p.text.HasDrive) ∧
    (p.isRestricted → p.toHost.text.head?.any isSeparator = false) ∧
    (q.toClient.isRestricted ↔ q.text.head?.any isSeparator = false) := by
  have hhead := p.head?_toHost_eq_slash_iff
  refine ⟨hhead, ?_, ?_, ?_⟩
  · rw [isRestricted_iff, ← hhead]
  · intro hp
    rw [← Bool.not_eq_true, head?_toHost_any_isSeparator, hhead]
    exact (p.isRestricted_iff.mp hp).1
  · rw [isRestricted_iff, q.hasTwoSeparators_toClient_iff, Bool.not_eq_true]
    exact and_iff_left q.not_hasDrive_toClient

theorem ClientPath.isRestricted_behind_separator :
    (ClientPath.mk "\\C:/x").isRestricted ∧
    (ClientPath.mk "\\C:/x").toHost.text.head?.any isSeparator = false ∧
    (HostPath.mk "C:/x").toClient.isRestricted := by
  have hp : (ClientPath.mk "\\C:/x").isRestricted := by decide
  obtain ⟨_, _, hstays, hback⟩ := isRestricted_iff_relative ⟨"\\C:/x"⟩ ⟨"C:/x"⟩
  exact ⟨hp, hstays hp, hback.mpr rfl⟩

end DriveBridge
