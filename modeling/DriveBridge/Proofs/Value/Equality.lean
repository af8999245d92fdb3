import DriveBridge.Value.Equality

namespace DriveBridge

namespace Value

theorem within_iff {es fs : List (Value × Value)} :
    within es fs ↔ ∀ e ∈ es, ∃ f ∈ fs, same e.1 f.1 ∧ same e.2 f.2 := by
  induction es with
  | nil => simp [within]
  | cons e es ih =>
    obtain ⟨k, v⟩ := e
    rw [within, Bool.and_eq_true, ih, List.forall_mem_cons, List.any_eq_true]
    simp only [Bool.and_eq_true]

theorem eq_of_same_text {s : Text} {w : Value} (h : same (text s) w) : w = text s := by
  cases w
  case text t =>
    rw [same, beq_iff_eq] at h
    rw [h]
  all_goals simp [same, sameNumber, integer?] at h

theorem same_text_iff {k : Value} {t : Text} : same k (text t) ↔ k = text t := by
  constructor
  · intro h
    cases k
    case text s =>
      rw [same, beq_iff_eq] at h
      rw [h]
    all_goals simp [same, sameNumber, integer?] at h
  · rintro rfl
    exact beq_self_eq_true t

theorem exists_of_same_location {p : PathValue} {w : Value} (h : same (location p) w) :
    ∃ q, w = location q ∧ p.same q = true := by
  cases w
  case location q =>
    rw [same] at h
    exact ⟨q, rfl, h⟩
  all_goals simp [same, sameNumber, integer?] at h

theorem exists_of_same_list {xs : List Value} {w : Value} (h : same (list xs) w) :
    ∃ ys, w = list ys ∧ sameItems xs ys = true := by
  cases w
  case list ys =>
    rw [same] at h
    exact ⟨ys, rfl, h⟩
  all_goals simp [same, sameNumber, integer?] at h

theorem exists_of_same_table {es : List (Value × Value)} {w : Value} (h : same (table es) w) :
    ∃ fs, w = table fs ∧ es.length = fs.length ∧ within es fs = true := by
  cases w
  case table fs =>
    rw [same, Bool.and_eq_true, beq_iff_eq] at h
    exact ⟨fs, rfl, h⟩
  all_goals simp [same, sameNumber, integer?] at h

end Value

end DriveBridge
