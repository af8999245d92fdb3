import DriveBridge.Path.NullTerminated
import DriveBridge.Proofs.Path.Lengths

namespace DriveBridge

namespace Utf8

theorem zero_mem_encode_iff (t : Text) : 0 ∈ encode t ↔ 0 ∈ t := by
  rw [ascii_mem_encode_iff (by decide)]
  constructor
  · rintro ⟨c, hc, hzero⟩
    obtain rfl : c = 0 := Fin.ext hzero
    exact hc
  · intro h
    exact ⟨0, h, rfl⟩

end Utf8

namespace EmbeddedNul

theorem index?_eq_some_iff {t : Text} {i : Nat} :
    index? t = some i ↔ t[i]? = some 0 ∧ 0 ∉ t.take i := by
  simp only [index?, List.findIdx?_eq_some_iff_getElem, List.getElem?_eq_some_iff,
    decide_eq_true_eq]
  constructor
  · rintro ⟨h, hz, hfirst⟩
    refine ⟨⟨h, hz⟩, ?_⟩
    intro hm
    obtain ⟨j, hj, he⟩ := List.mem_take_iff_getElem.mp hm
    exact hfirst j (by omega) he
  · rintro ⟨⟨h, hz⟩, hfirst⟩
    refine ⟨h, hz, ?_⟩
    intro j hj he
    exact hfirst (List.mem_take_iff_getElem.mpr ⟨j, by omega, he⟩)

theorem index?_eq_none_iff {t : Text} : index? t = none ↔ 0 ∉ t := by
  simp only [index?, List.findIdx?_eq_none_iff, decide_eq_false_iff_not]
  constructor
  · intro h hm
    exact h 0 hm rfl
  · rintro h c hc rfl
    exact h hc

end EmbeddedNul

namespace HostPath

variable {p : HostPath}

theorem nullTerminated_of_index {i : Nat} (h : EmbeddedNul.index? p.text = some i) :
    p.nullTerminated = .error ⟨p.text, .int i⟩ := by
  rw [nullTerminated, h]

theorem nullTerminated_of_not_mem (h : 0 ∉ p.text) :
    p.nullTerminated = .ok (Utf8.encode p.text ++ [0]) := by
  rw [nullTerminated, EmbeddedNul.index?_eq_none_iff.mpr h]

theorem exists_index_of_mem (h : 0 ∈ p.text) : ∃ i, EmbeddedNul.index? p.text = some i := by
  cases hi : EmbeddedNul.index? p.text with
  | none => exact absurd h (EmbeddedNul.index?_eq_none_iff.mp hi)
  | some i => exact ⟨i, rfl⟩

theorem measure_utf8 (s : Session) (p : HostPath) :
    s.measure (.host p) (.text LengthUnit.utf8.label) =
      .ok (.value (.int (Utf8.encode p.text).length)) :=
  Session.measure_host (Value.toUnit_label .utf8) p

theorem nullTerminated_injective : Function.Injective nullTerminated := by
  intro p q h
  by_cases hp : 0 ∈ p.text <;> by_cases hq : 0 ∈ q.text
  · obtain ⟨i, hi⟩ := exists_index_of_mem hp
    obtain ⟨j, hj⟩ := exists_index_of_mem hq
    rw [nullTerminated_of_index hi, nullTerminated_of_index hj, Except.error.injEq,
      EmbeddedNul.mk.injEq] at h
    exact congrArg HostPath.mk h.1
  · obtain ⟨i, hi⟩ := exists_index_of_mem hp
    rw [nullTerminated_of_index hi, nullTerminated_of_not_mem hq] at h
    cases h
  · obtain ⟨j, hj⟩ := exists_index_of_mem hq
    rw [nullTerminated_of_not_mem hp, nullTerminated_of_index hj] at h
    cases h
  · rw [nullTerminated_of_not_mem hp, nullTerminated_of_not_mem hq, Except.ok.injEq,
      List.append_cancel_right_eq] at h
    exact congrArg HostPath.mk (Utf8.encode_injective h)

/-- A path is refused exactly if it holds a NUL, by a report on the first one. Of all others the
octets hold everything, and their only zero is the last. -/
theorem nullTerminated_lossless (p : HostPath) (s : Session) :
    (0 ∈ p.text ↔ ∃ i : Nat, p.nullTerminated = .error ⟨p.text, .int i⟩ ∧
      p.text[i]? = some 0 ∧ 0 ∉ p.text.take i) ∧
    (0 ∉ p.text ↔ ∃ body, p.nullTerminated = .ok (body ++ [0]) ∧ 0 ∉ body ∧
      s.measure (.host p) (.text LengthUnit.utf8.label) = .ok (.value (.int body.length)) ∧
      Utf8.decode? body = some p.text) ∧
    Function.Injective nullTerminated := by
  refine ⟨⟨?_, ?_⟩, ⟨?_, ?_⟩, nullTerminated_injective⟩
  · intro h
    obtain ⟨i, hi⟩ := exists_index_of_mem h
    exact ⟨i, nullTerminated_of_index hi, EmbeddedNul.index?_eq_some_iff.mp hi⟩
  · rintro ⟨i, _, hi, _⟩
    exact List.mem_of_getElem? hi
  · intro h
    refine ⟨Utf8.encode p.text, nullTerminated_of_not_mem h, ?_, measure_utf8 s p,
      Utf8.decode?_encode p.text⟩
    rwa [Utf8.zero_mem_encode_iff]
  · rintro ⟨body, hbody, _⟩ hm
    obtain ⟨i, hi⟩ := exists_index_of_mem hm
    rw [nullTerminated_of_index hi] at hbody
    cases hbody

end HostPath

end DriveBridge
