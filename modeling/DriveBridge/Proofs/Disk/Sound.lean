import DriveBridge.Proofs.Disk.Walk
import DriveBridge.Proofs.Text.Octets

namespace DriveBridge

namespace Place

theorem isEnclosing_above {place : Place} (h : place.isEnclosing = true) :
    place.above.isEnclosing = true := by
  rw [above, if_pos h, isEnclosing_append, h]
  rfl

theorem isEnclosing_name (here : Place) {name : Text} (h : name ≠ Disk.upward) :
    (here ++ [SystemName.encode name]).isEnclosing = false := by
  rw [isEnclosing_append, Bool.and_eq_false_iff]
  right
  simp only [isEnclosing, List.all_cons, List.all_nil, Bool.and_true, beq_eq_false_iff_ne]
  exact SystemName.encode_ne_twoDots h

theorem not_prefix_dropLast {a b : Place} (h : a.isEnclosing = false) (hb : ¬ b <+: a) :
    ¬ a <+: a.dropLast ∧ ¬ b <+: a.dropLast := by
  constructor
  · intro hp
    have hl := hp.length_le
    rw [List.length_dropLast] at hl
    have : a = [] := List.length_eq_zero_iff.mp (by omega)
    subst this
    cases h
  · intro hp
    exact hb (hp.trans (List.dropLast_prefix a))

end Place

namespace Disk

/-- Everything lies in a directory, and a file has one name only: there are no hard links. -/
structure IsSound (d : Disk) : Prop where
  rooted : ∀ {place node}, d.at? place = some node → place.isEnclosing = false →
    d.at? place.dropLast = some .directory
  held : ∀ {place id}, d.at? place = some (.file id) → id < d.contents.length
  single : ∀ {a b id}, d.at? a = some (.file id) → d.at? b = some (.file id) → a = b

variable {d e : Disk} {p : Location} {here place : Place}

theorem at?_of_isEnclosing (d : Disk) (h : place.isEnclosing = true) :
    d.at? place = some .directory := by
  rw [at?, if_pos h]

theorem isSound_empty : IsSound empty := by
  have hf (place : Place) (node : Node) (h : empty.at? place = some node) :
      place.isEnclosing = true ∧ node = .directory := by
    rw [at?] at h
    split at h
    · exact ⟨by assumption, (Option.some.inj h).symm⟩
    · cases h
  constructor
  · intro place node h he
    rw [(hf place node h).1] at he
    cases he
  · intro place id h
    cases (hf place _ h).2
  · intro a b id h
    cases (hf a _ h).2

namespace IsSound

theorem at?_of_prefix (hd : d.IsSound) {a b : Place} (h : a <+: b) (hab : a ≠ b)
    (hb : (d.at? b).isSome) : d.at? a = some .directory := by
  obtain ⟨x, rfl⟩ := h
  induction x generalizing a with
  | nil => exact absurd (List.append_nil a).symm hab
  | cons n x ih =>
    have hn : (d.at? (a ++ [n])).isSome := by
      cases x with
      | nil => exact hb
      | cons m x =>
        rw [List.append_cons] at hb
        rw [ih (by simp) hb]
        rfl
    cases he : Place.isEnclosing (a ++ [n]) with
    | true => exact d.at?_of_isEnclosing (Place.isEnclosing_of_prefix (List.prefix_append a _) he)
    | false =>
      obtain ⟨node, hn⟩ := Option.isSome_iff_exists.mp hn
      have hr := hd.rooted hn he
      rwa [List.dropLast_concat] at hr

theorem at?_above (hd : d.IsSound) (h : d.at? here = some .directory) :
    d.at? here.above = some .directory := by
  cases he : here.isEnclosing with
  | true => exact d.at?_of_isEnclosing (Place.isEnclosing_above he)
  | false =>
    rw [Place.above, he]
    exact hd.rooted h he

theorem isVacant (hd : d.IsSound) (h : d.at? place ≠ some .directory) : d.isVacant place := by
  rw [Disk.isVacant, List.all_eq_true]
  rintro ⟨other, node⟩ hm
  rw [Bool.not_eq_true', ← Bool.not_eq_true, Bool.and_eq_true, List.isPrefixOf_iff_prefix, bne_iff_ne]
  rintro ⟨hp, hne⟩
  have hs : (d.at? other).isSome := by
    rw [at?]
    split
    · rfl
    · rw [List.lookup_isSome_iff]
      exact ⟨_, hm, beq_self_eq_true other⟩
  exact h (hd.at?_of_prefix hp (Ne.symm hne) hs)

theorem of_at? (hd : d.IsSound) (ha : ∀ place, e.at? place = d.at? place)
    (hl : d.contents.length ≤ e.contents.length) : e.IsSound where
  rooted h he := by
    rw [ha] at h ⊢
    exact hd.rooted h he
  held h := Nat.lt_of_lt_of_le (hd.held (ha _ ▸ h)) hl
  single h h' := hd.single (ha _ ▸ h) (ha _ ▸ h')

theorem add (hd : d.IsSound) {node : Node} {contents : List (List UInt8)}
    (he : place.isEnclosing = false) (hn : d.at? place = none)
    (hp : d.at? place.dropLast = some .directory) (hl : d.contents.length ≤ contents.length)
    (hf : ∀ id, node = .file id → id < contents.length ∧ ∀ other, d.at? other ≠ some (.file id)) :
    IsSound { d.add place node with contents := contents } := by
  have ha (other : Place) : Disk.at? { d.add place node with contents := contents } other =
      if other = place then some node else d.at? other := d.at?_add place other node he
  constructor
  · intro other n h ho
    have hr : d.at? other.dropLast = some .directory := by
      rw [ha] at h
      split at h
      · rename_i hop
        rwa [hop]
      · exact hd.rooted h ho
    rw [ha, if_neg, hr]
    rintro rfl
    rw [hn] at hr
    cases hr
  · intro other id h
    rw [ha] at h
    split at h
    · exact (hf id (Option.some.inj h)).1
    · exact Nat.lt_of_lt_of_le (hd.held h) hl
  · intro a b id h h'
    rw [ha] at h h'
    split at h <;> split at h'
    · rename_i hap hbp
      rw [hap, hbp]
    · exact absurd h' ((hf id (Option.some.inj h)).2 b)
    · exact absurd h ((hf id (Option.some.inj h')).2 a)
    · exact hd.single h h'

theorem addDirectory (hd : d.IsSound) (he : place.isEnclosing = false) (hn : d.at? place = none)
    (hp : d.at? place.dropLast = some .directory) : (d.add place .directory).IsSound :=
  hd.add he hn hp (Nat.le_refl _) fun _ h => nomatch h

theorem create (hd : d.IsSound) (he : place.isEnclosing = false) (hn : d.at? place = none)
    (hp : d.at? place.dropLast = some .directory) : (d.create place).1.IsSound := by
  have hl : d.contents.length < (d.contents ++ [[]]).length := by
    rw [List.length_append, List.length_singleton]
    exact Nat.lt_succ_self _
  apply hd.add he hn hp (Nat.le_of_lt hl)
  intro id h
  obtain rfl := Node.file.inj h
  constructor
  · exact hl
  · intro other ho
    exact Nat.lt_irrefl _ (hd.held ho)

theorem append (hd : d.IsSound) (id : FileId) (octets : List UInt8) :
    (d.append id octets).IsSound := by
  apply hd.of_at?
  · intro place
    exact d.at?_append place id octets
  · exact Nat.le_of_eq (List.length_modify ..).symm

theorem overwrite (hd : d.IsSound) (id : FileId) (octets : List UInt8) :
    (d.overwrite id octets).IsSound := by
  apply hd.of_at?
  · intro place
    exact d.at?_overwrite place id octets
  · exact Nat.le_of_eq List.length_set.symm

theorem move (hd : d.IsSound) {source target : Place} (hs : source.isEnclosing = false)
    (ht : target.isEnclosing = false) (hst : ¬ source <+: target) (hts : ¬ target <+: source)
    (hp : d.at? target.dropLast = some .directory) : (d.move source target).IsSound := by
  have ha (place : Place) := d.at?_move place source target hs ht hst hts
  constructor
  · intro place node h he
    rw [ha] at h
    split at h
    · rename_i hpl
      obtain ⟨x, rfl⟩ := hpl
      rw [List.drop_left] at h
      rcases List.eq_nil_or_concat x with rfl | ⟨x, n, rfl⟩
      · rw [List.append_nil] at he ⊢
        have hn := Place.not_prefix_dropLast ht hst
        rw [ha, if_neg hn.1, if_neg hn.2, hp]
      · rw [List.concat_eq_append] at h ⊢
        rw [← List.append_assoc, List.dropLast_concat, ha, if_pos (List.prefix_append target x),
          List.drop_left]
        rw [← List.append_assoc] at h
        have hx := hd.rooted h (by rw [List.append_assoc, Place.isEnclosing_append, hs]; rfl)
        rwa [List.dropLast_concat] at hx
    split at h
    · cases h
    · rename_i htp hsp
      rw [ha, if_neg fun h => htp (h.trans (List.dropLast_prefix place)),
        if_neg fun h => hsp (h.trans (List.dropLast_prefix place))]
      exact hd.rooted h he
  · intro place id h
    rw [ha] at h
    split at h
    · exact hd.held h
    split at h
    · cases h
    · exact hd.held h
  · intro a b id h h'
    rw [ha] at h h'
    split at h
    · rename_i hat
      obtain ⟨x, rfl⟩ := hat
      rw [List.drop_left] at h
      split at h'
      · rename_i hbt
        obtain ⟨y, rfl⟩ := hbt
        rw [List.drop_left] at h'
        rw [List.append_cancel_left (hd.single h h')]
      split at h'
      · cases h'
      · rename_i hbs
        exact absurd (hd.single h h' ▸ List.prefix_append source x) hbs
    split at h
    · cases h
    · rename_i has
      split at h'
      · exact absurd (hd.single h h' ▸ List.prefix_append source _) has
      split at h'
      · cases h'
      · exact hd.single h h'

end IsSound

end Disk

end DriveBridge
