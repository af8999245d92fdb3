import DriveBridge.Path.Basic

namespace DriveBridge

open CodePoint

namespace Text

variable {a b : CodePoint}

@[simp]
theorem replace_nil (a b : CodePoint) : replace a b [] = [] := rfl

@[simp]
theorem replace_cons (a b c : CodePoint) (t : Text) :
    replace a b (c :: t) = (if c = a then b else c) :: replace a b t := rfl

theorem replaced_eq_slash_iff (c : CodePoint) :
    (if c = backslash then slash else c) = slash ↔ c.isSeparator := by
  rw [isSeparator, Bool.or_eq_true, beq_iff_eq, beq_iff_eq]
  by_cases hb : c = backslash
  · simp [hb]
  · simp [hb]

theorem not_mem_replace (h : a ≠ b) (t : Text) : a ∉ replace a b t := by
  intro hm
  obtain ⟨c, _, hc⟩ := List.mem_map.mp hm
  by_cases ha : c = a
  · simp only [ha, if_true] at hc
    exact h hc.symm
  · simp only [ha, if_false] at hc

theorem replace_eq_self_iff (h : a ≠ b) (t : Text) : replace a b t = t ↔ a ∉ t := by
  constructor
  · intro he
    rw [← he]
    exact not_mem_replace h t
  · intro ht
    have hid : ∀ c ∈ t, (if c = a then b else c) = id c := by
      intro c hc
      have ha : c ≠ a := fun e => ht (e ▸ hc)
      simp [ha]
    rw [replace, List.map_congr_left hid, List.map_id]

theorem replace_replace (a b : CodePoint) (t : Text) :
    replace a b (replace b a t) = replace a b t := by
  simp only [replace, List.map_map]
  congr 1
  funext c
  by_cases hb : c = b <;> simp [hb]

theorem replace_replace_of_not_mem {t : Text} (h : b ∉ t) : replace b a (replace a b t) = t := by
  induction t with
  | nil => rfl
  | cons c t ih =>
    rw [List.mem_cons, not_or] at h
    have hb : c ≠ b := fun e => h.1 e.symm
    by_cases ha : c = a <;> simp [ha, hb, ih h.2]

end Text

open Text

namespace ClientPath

@[simp]
theorem dropRoot_slash (t : Text) : dropRoot (slash :: t) = t := by
  simp [dropRoot]

theorem dropRoot_of_head {t : Text} (h : t.head? ≠ some slash) : dropRoot t = t := by
  cases t with
  | nil => rfl
  | cons c t =>
    have hc : c ≠ slash := fun e => h (congrArg some e)
    simp [dropRoot, hc]

theorem mem_of_mem_dropRoot {t : Text} {c : CodePoint} (h : c ∈ dropRoot t) : c ∈ t := by
  cases t with
  | nil => exact h
  | cons d t =>
    rw [dropRoot] at h
    split at h
    · exact List.mem_cons_of_mem _ h
    · exact h

theorem dropRoot_eq_iff (s t : Text) :
    dropRoot s = dropRoot t ↔ s = t ∨ s = slash :: t ∧ t.head? ≠ some slash ∨
      t = slash :: s ∧ s.head? ≠ some slash := by
  by_cases hs : s.head? = some slash <;> by_cases ht : t.head? = some slash
  · obtain ⟨s, rfl⟩ := List.head?_eq_some_iff.mp hs
    obtain ⟨t, rfl⟩ := List.head?_eq_some_iff.mp ht
    simp
  · obtain ⟨s, rfl⟩ := List.head?_eq_some_iff.mp hs
    have hne : slash :: s ≠ t := fun e => ht (e ▸ hs)
    simp [dropRoot_of_head ht, ht, hne]
  · obtain ⟨t, rfl⟩ := List.head?_eq_some_iff.mp ht
    have hne : s ≠ slash :: t := fun e => hs (e ▸ ht)
    simp [dropRoot_of_head hs, hs, hne, eq_comm]
  · have hst : s ≠ slash :: t := fun e => hs (e ▸ rfl)
    have hts : t ≠ slash :: s := fun e => ht (e ▸ rfl)
    simp [dropRoot_of_head hs, dropRoot_of_head ht, hst, hts]

theorem toHost_eq_iff (p q : ClientPath) :
    p.toHost = q.toHost ↔
      dropRoot (replace backslash slash p.text) = dropRoot (replace backslash slash q.text) := by
  simp only [toHost, HostPath.mk.injEq]

end ClientPath

namespace HostPath

theorem toHost_toClient (p : HostPath) : p.toClient.toHost = ⟨replace backslash slash p.text⟩ := by
  simp [toClient, ClientPath.toHost, replace_replace]

theorem toHost_toClient_eq_iff (p : HostPath) : p.toClient.toHost = p ↔ backslash ∉ p.text := by
  obtain ⟨t⟩ := p
  rw [toHost_toClient, HostPath.mk.injEq, replace_eq_self_iff (by decide)]

theorem toClient_rooted (p : HostPath) :
    p.toClient.text.head? = some backslash ∧ slash ∉ p.toClient.text := by
  refine ⟨rfl, ?_⟩
  simp only [toClient, List.mem_cons, not_or]
  exact ⟨by decide, not_mem_replace (by decide) p.text⟩

end HostPath

namespace ClientPath

theorem toClient_toHost_eq_iff (p : ClientPath) :
    p.toHost.toClient = p ↔ p.text.head? = some backslash ∧ slash ∉ p.text := by
  constructor
  · intro h
    rw [← h]
    exact p.toHost.toClient_rooted
  · rintro ⟨hhead, hslash⟩
    obtain ⟨t⟩ := p
    obtain ⟨rest, rfl⟩ := List.head?_eq_some_iff.mp hhead
    have hrest : slash ∉ rest := fun hm => hslash (List.mem_cons_of_mem _ hm)
    simp [toHost, HostPath.toClient, replace_replace_of_not_mem hrest]

/-- The two conversions are inverse to each other where the separators are those of their side and
the client path begins at the root of its drive; elsewhere a round trip brings a path there. -/
theorem conversions_inverse (t : HostPath) (s s' : ClientPath) :
    t.toClient.toHost = ⟨replace backslash slash t.text⟩ ∧
    (t.toClient.toHost = t ↔ backslash ∉ t.text) ∧
    (s.toHost.toClient = s ↔ s.text.head? = some backslash ∧ slash ∉ s.text) ∧
    s.toHost.toClient.toHost.toClient = s.toHost.toClient ∧
    (s.toHost = s'.toHost ↔
      let n := replace backslash slash s.text
      let n' := replace backslash slash s'.text
      n = n' ∨ n = slash :: n' ∧ n'.head? ≠ some slash ∨
        n' = slash :: n ∧ n.head? ≠ some slash) := by
  refine ⟨t.toHost_toClient, t.toHost_toClient_eq_iff, s.toClient_toHost_eq_iff, ?_, ?_⟩
  · exact s.toHost.toClient.toClient_toHost_eq_iff.mpr s.toHost.toClient_rooted
  · rw [toHost_eq_iff, dropRoot_eq_iff]

end ClientPath

end DriveBridge
