import DriveBridge.Disk.Lemmas

namespace DriveBridge

namespace Place

def along : Place → List Text → Place
  | here, [] => here
  | here, name :: rest =>
    if Location.isIdle name then along here rest
    else if name = Disk.upward then along here.above rest
    else along (here ++ [SystemName.encode name]) rest

theorem along_append (here : Place) (names rest : List Text) :
    along here (names ++ rest) = along (along here names) rest := by
  induction names generalizing here with
  | nil => rfl
  | cons name names ih =>
    simp only [List.cons_append, along]
    split
    · exact ih here
    split
    · exact ih here.above
    · exact ih _

theorem isEnclosing_of_prefix {a b : Place} (h : a <+: b) (hb : b.isEnclosing = true) :
    a.isEnclosing = true := by
  obtain ⟨x, rfl⟩ := h
  rw [isEnclosing_append, Bool.and_eq_true] at hb
  exact hb.1

end Place

namespace Location

def IsName (name : Text) : Prop := isIdle name = false ∧ name ≠ Disk.upward

def place (p : Location) : Place := Place.along [] p.names

theorem along_name {name : Text} (hn : IsName name) (here : Place) :
    Place.along here [name] = here ++ [SystemName.encode name] := by
  simp only [Place.along, hn.1, hn.2, Bool.false_eq_true, if_false]

theorem isName_of_mem {name : Text} {c : CodePoint} (hc : c ∈ name) (hd : c ≠ CodePoint.dot) :
    IsName name := by
  constructor
  · simp only [isIdle, Bool.or_eq_false_iff, beq_eq_false_iff_ne]
    constructor
    · rintro rfl
      cases hc
    · rintro rfl
      exact hd (List.mem_singleton.mp hc)
  · rintro rfl
    simp only [Disk.upward, List.mem_cons, List.not_mem_nil, or_false, or_self] at hc
    exact hd hc

end Location

namespace Disk

theorem bind_eq_ok {α β : Type} {x : Except Refusal α} {f : α → Except Refusal β} {b : β}
    (h : x.bind f = .ok b) : ∃ a, x = .ok a ∧ f a = .ok b := by
  cases x with
  | error cause => cases h
  | ok a => exact ⟨a, rfl, h⟩

variable {d : Disk} {p : Location} {here place : Place}

theorem follow_eq_along {names : List Text} (h : d.follow here names = .ok place) :
    place = here.along names := by
  induction names generalizing here with
  | nil => exact (Except.ok.inj h).symm
  | cons name names ih =>
    simp only [follow] at h
    split at h
    · cases h
    · cases h
    · simp only [Place.along]
      split at h
      · rw [if_pos (by assumption)]
        exact ih h
      rw [if_neg (by assumption)]
      split at h
      · rw [if_pos (by assumption)]
        exact ih h
      rw [if_neg (by assumption)]
      split at h
      · cases h
      · exact ih h

theorem follow_congr_way {e : Disk} {names : List Text}
    (h : ∀ n < names.length,
      e.at? (here.along (names.take n)) = d.at? (here.along (names.take n))) :
    e.follow here names = d.follow here names := by
  induction names generalizing here with
  | nil => rfl
  | cons name names ih =>
    have hhere := h 0 (Nat.zero_lt_succ _)
    have hrest (n : Nat) (hn : n < names.length) := h (n + 1) (Nat.succ_lt_succ hn)
    simp only [List.take_succ_cons, Place.along] at hrest
    rw [List.take_zero, Place.along] at hhere
    simp only [follow, hhere]
    split
    · rfl
    · rfl
    split
    · rename_i hi
      simp only [if_pos hi] at hrest
      exact ih hrest
    rename_i hi
    simp only [if_neg hi] at hrest
    split
    · rename_i hu
      simp only [if_pos hu] at hrest
      exact ih hrest
    rename_i hu
    simp only [if_neg hu] at hrest
    split
    · rfl
    · exact ih hrest

theorem follow_congr {e : Disk} (h : ∀ place, e.at? place = d.at? place) (names : List Text) :
    e.follow here names = d.follow here names :=
  follow_congr_way fun _ _ => h _

theorem follow_append (names rest : List Text) :
    d.follow here (names ++ rest) = (d.follow here names).bind (d.follow · rest) := by
  induction names generalizing here with
  | nil => rfl
  | cons name names ih =>
    simp only [List.cons_append, follow]
    split
    · rfl
    · rfl
    · split
      · exact ih
      split
      · exact ih
      split
      · rfl
      · exact ih

theorem follow_name {name : Text} (hn : Location.IsName name) (hd : d.at? here = some .directory) :
    d.follow here [name] =
      if isTooLong name then .error .nameTooLong else .ok (here ++ [SystemName.encode name]) := by
  simp only [follow, hd, hn.1, hn.2, Bool.false_eq_true, if_false]

theorem at?_of_follow_cons {name : Text} {rest : List Text}
    (h : d.follow here (name :: rest) = .ok place) : d.at? here = some .directory := by
  simp only [follow] at h
  split at h
  · cases h
  · cases h
  · assumption

theorem locate_congr {e : Disk} (h : ∀ place, e.at? place = d.at? place) :
    e.locate p = d.locate p := by
  unfold locate walk
  rw [follow_congr h]

theorem unusable?_of_locate (h : d.locate p = .ok place) : unusable? p.text = none := by
  unfold locate walk at h
  split at h
  · cases h
  · assumption

theorem follow_of_locate (h : d.locate p = .ok place) : d.follow [] p.names = .ok place := by
  unfold locate walk at h
  rwa [unusable?_of_locate h] at h

theorem locate_eq_place (h : d.locate p = .ok place) : place = p.place :=
  follow_eq_along (follow_of_locate h)

theorem find_of_locate (h : d.locate p = .ok place) : d.find p = .ok (d.at? place) := by
  unfold find
  rw [h]

theorem locate_of_find_some {node : Node} (h : d.find p = .ok (some node)) :
    d.locate p = .ok p.place ∧ d.at? p.place = some node := by
  unfold find at h
  split at h
  · rename_i place hp
    rw [← locate_eq_place hp]
    exact ⟨hp, Except.ok.inj h⟩
  · cases h
  · cases h

theorem find_congr_way {e : Disk}
    (h : ∀ n ≤ p.names.length,
      e.at? (Place.along [] (p.names.take n)) = d.at? (Place.along [] (p.names.take n))) :
    e.find p = d.find p := by
  have hlocate : e.locate p = d.locate p := by
    unfold locate walk
    rw [follow_congr_way fun n hn => h n (Nat.le_of_lt hn)]
  have hplace := h p.names.length (Nat.le_refl _)
  rw [List.take_length] at hplace
  unfold find
  rw [hlocate]
  split
  · rename_i place hl
    rw [locate_eq_place hl]
    exact congrArg Except.ok hplace
  · rfl
  · rfl

theorem find_append (d : Disk) (id : FileId) (octets : List UInt8) :
    (d.append id octets).find p = d.find p := find_congr_way fun _ _ => rfl

theorem find_eq_error {cause : Refusal} (h : d.find p = .error cause) :
    d.locate p = .error .nameTooLong := by
  unfold find at h
  split at h
  · cases h
  · assumption
  · cases h

end Disk

end DriveBridge
