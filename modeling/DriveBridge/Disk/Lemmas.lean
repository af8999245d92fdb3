import DriveBridge.Disk.Change

namespace DriveBridge.Disk

variable (d : Disk) (place other : Place) (id : FileId)

@[simp] theorem at?_root : d.at? [] = some .directory := rfl

theorem at?_add (node : Node) (h : place.isEnclosing = false) :
    (d.add place node).at? other = if other = place then some node else d.at? other := by
  by_cases ho : other = place
  · simp [at?, add, ho, h]
  · have : (other == place) = false := by simp [ho]
    simp [at?, add, ho, List.lookup_cons, this]

@[simp] theorem content_add (node : Node) : (d.add place node).content id = d.content id := rfl

@[simp] theorem at?_append (octets : List UInt8) :
    (d.append id octets).at? place = d.at? place := rfl

@[simp] theorem at?_overwrite (octets : List UInt8) :
    (d.overwrite id octets).at? place = d.at? place := rfl

theorem content_append (octets : List UInt8) (h : id < d.contents.length) (file : FileId) :
    (d.append id octets).content file =
      if file = id then d.content id ++ octets else d.content file := by
  simp only [content, append, List.getD_eq_getElem?_getD, List.getElem?_modify]
  by_cases hf : file = id
  · subst hf
    simp [h]
  · simp [hf, Ne.symm hf]

theorem rebase_eq_iff {source target place other : Place} (ho : ¬ target <+: other) :
    rebase source target other = place ↔
      if target <+: place then other = source ++ place.drop target.length
      else ¬ source <+: place ∧ other = place := by
  unfold rebase
  by_cases hs : source <+: other
  · obtain ⟨y, rfl⟩ := hs
    simp only [List.isPrefixOf_iff_prefix, List.prefix_append, if_true, List.drop_left]
    split
    · rename_i ht
      obtain ⟨x, rfl⟩ := ht
      simp
    · rename_i ht
      constructor
      · rintro rfl
        exact absurd (List.prefix_append _ _) ht
      · rintro ⟨h, rfl⟩
        exact absurd (List.prefix_append _ _) h
  · simp only [List.isPrefixOf_iff_prefix, hs, if_false]
    split
    · rename_i ht
      constructor
      · rintro rfl
        exact absurd ht ho
      · rintro rfl
        exact absurd (List.prefix_append _ _) hs
    · constructor
      · rintro rfl
        exact ⟨hs, rfl⟩
      · exact And.right

theorem lookup_cons_eq {α β : Type} [BEq α] [LawfulBEq α] [DecidableEq α] (key other : α) (x : β)
    (xs : List (α × β)) :
    List.lookup key ((other, x) :: xs) = if other = key then some x else xs.lookup key := by
  rw [List.lookup_cons]
  by_cases h : other = key
  · simp [h]
  · have : (key == other) = false := by simpa using Ne.symm h
    simp [h, this]

theorem lookup_filter_ne {α β : Type} [BEq α] [LawfulBEq α] [DecidableEq α] (gone key : α)
    (xs : List (α × β)) :
    (xs.filter (·.1 ≠ gone)).lookup key = if key = gone then none else xs.lookup key := by
  induction xs with
  | nil => simp
  | cons entry xs ih =>
    obtain ⟨other, x⟩ := entry
    by_cases ho : other = gone
    · simp only [List.filter_cons, ho, ne_eq, not_true, decide_false, Bool.false_eq_true,
        if_false, ih, lookup_cons_eq]
      by_cases hk : key = gone
      · simp [hk]
      · simp [hk, Ne.symm hk]
    · simp only [List.filter_cons, ho, ne_eq, not_false_eq_true, decide_true, if_true,
        lookup_cons_eq, ih]
      by_cases hk : key = gone
      · simp [hk, ho]
      · simp [hk]

theorem lookup_move (source target place : Place) (hst : ¬ source <+: target)
    (hts : ¬ target <+: source) (d : Disk) :
    (d.move source target).nodes.lookup place =
      if target <+: place then d.nodes.lookup (source ++ place.drop target.length)
      else if source <+: place then none else d.nodes.lookup place := by
  obtain ⟨nodes, contents⟩ := d
  simp only [move]
  induction nodes with
  | nil => simp
  | cons entry nodes ih =>
    obtain ⟨other, node⟩ := entry
    by_cases ho : target <+: other
    · have hne (x : Place) : other ≠ source ++ x := by
        rintro rfl
        cases List.prefix_or_prefix_of_prefix ho (List.prefix_append source x) with
        | inl h => exact hts h
        | inr h => exact hst h
      have hf : (target.isPrefixOf other) = true := List.isPrefixOf_iff_prefix.2 ho
      simp only [List.filter_cons, hf, Bool.not_true, Bool.false_eq_true, if_false, ih,
        lookup_cons_eq, hne]
      split
      · rfl
      · rename_i hp
        have : other ≠ place := by rintro rfl; exact hp ho
        simp [this]
    · have hf : (target.isPrefixOf other) = false := by
        rw [← Bool.not_eq_true, List.isPrefixOf_iff_prefix]
        exact ho
      simp only [List.filter_cons, hf, Bool.not_false, if_true, List.map_cons, ih,
        lookup_cons_eq, rebase_eq_iff ho]
      by_cases ht : target <+: place <;> by_cases hs : source <+: place <;> simp [ht, hs]

@[simp] theorem content_move (source target : Place) :
    (d.move source target).content id = d.content id := rfl

theorem at?_move (source target : Place) (hs : source.isEnclosing = false)
    (ht : target.isEnclosing = false) (hst : ¬ source <+: target) (hts : ¬ target <+: source) :
    (d.move source target).at? place =
      if target <+: place then d.at? (source ++ place.drop target.length)
      else if source <+: place then none else d.at? place := by
  cases hp : place.isEnclosing with
  | true =>
    have (other : Place) (ho : other.isEnclosing = false) : ¬ other <+: place := by
      rintro ⟨x, rfl⟩
      simp [Place.isEnclosing_append, ho] at hp
    simp [at?, hp, this source hs, this target ht]
  | false =>
    simp [at?, hp, Place.isEnclosing_append, hs, lookup_move source target place hst hts]

end DriveBridge.Disk
