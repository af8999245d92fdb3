import DriveBridge.Proofs.Disk.Sound

namespace DriveBridge.Disk

variable {d e : Disk} {p old new : Location} {here place : Place} {id : FileId}

def octetsAt (d : Disk) (place : Place) : List UInt8 :=
  match d.at? place with
  | some (.file id) => d.content id
  | _ => []

theorem isEnclosing_of_absent (h : d.at? place = none) : place.isEnclosing = false := by
  rw [Bool.eq_false_iff]
  intro he
  rw [at?_of_isEnclosing d he] at h
  cases h

theorem octetsAt_file (h : d.at? place = some (.file id)) : d.octetsAt place = d.content id := by
  rw [octetsAt, h]

theorem octetsAt_of_no_file (h : ∀ id, d.at? place ≠ some (.file id)) : d.octetsAt place = [] := by
  rw [octetsAt]
  split
  · exact absurd (by assumption) (h _)
  · rfl

theorem octetsAt_congr (ha : e.at? place = d.at? place)
    (hc : ∀ id, d.at? place = some (.file id) → e.content id = d.content id) :
    e.octetsAt place = d.octetsAt place := by
  rw [octetsAt, octetsAt, ha]
  split
  · exact hc _ (by assumption)
  · rfl

theorem octetsAt_append (hd : d.IsSound) (h : d.at? here = some (.file id)) (octets : List UInt8) :
    (d.append id octets).octetsAt place =
      if place = here then d.octetsAt here ++ octets else d.octetsAt place := by
  split
  · rename_i hp
    rw [hp, octetsAt_file h, octetsAt_file (by rw [at?_append, h]),
      content_append d id octets (hd.held h), if_pos rfl]
  · rename_i hp
    apply octetsAt_congr (at?_append d place id octets)
    intro file hf
    rw [content_append d id octets (hd.held h), if_neg]
    rintro rfl
    exact hp (hd.single hf h)

def treeAt (d : Disk) (place below : Place) : Option Node := d.at? (place ++ below)

def noTree (_ : Place) : Option Node := none

theorem treeAt_nil (d : Disk) (place : Place) : d.treeAt place [] = d.at? place := by
  rw [treeAt, List.append_nil]

theorem IsSound.treeAt_of_absent (hd : d.IsSound) (h : d.at? place = none) :
    d.treeAt place = noTree := by
  funext below
  rw [treeAt, noTree, ← Option.not_isSome_iff_eq_none]
  intro hsome
  by_cases hsame : place = place ++ below
  · rw [← hsame, h] at hsome
    cases hsome
  · rw [hd.at?_of_prefix (List.prefix_append place below) hsame hsome] at h
    cases h

/-- The same disk but for directories where nothing was. -/
structure IsExtendedBy (d e : Disk) : Prop where
  contents : e.contents = d.contents
  entries : ∀ place, e.at? place = d.at? place ∨
    d.at? place = none ∧ e.at? place = some .directory

theorem IsExtendedBy.refl (d : Disk) : d.IsExtendedBy d := ⟨rfl, fun _ => .inl rfl⟩

theorem IsExtendedBy.trans {f : Disk} (hde : d.IsExtendedBy e) (hef : e.IsExtendedBy f) :
    d.IsExtendedBy f := by
  constructor
  · exact hef.contents.trans hde.contents
  · intro place
    rcases hef.entries place with h | ⟨hn, hf⟩
    · rw [h]
      exact hde.entries place
    · rcases hde.entries place with h | ⟨_, he⟩
      · exact .inr ⟨h ▸ hn, hf⟩
      · rw [he] at hn
        cases hn

theorem IsExtendedBy.at?_of_some (h : d.IsExtendedBy e) {node : Node}
    (hplace : d.at? place = some node) : e.at? place = some node := by
  rcases h.entries place with hsame | ⟨hnone, _⟩
  · rw [hsame, hplace]
  · rw [hplace] at hnone
    cases hnone

theorem IsExtendedBy.octetsAt (h : d.IsExtendedBy e) (place : Place) :
    e.octetsAt place = d.octetsAt place := by
  rcases h.entries place with ha | ⟨hn, he⟩
  · apply octetsAt_congr ha
    intro id _
    rw [content, content, h.contents]
  · have hd : d.octetsAt place = [] := by
      apply octetsAt_of_no_file
      intro id hf
      rw [hn] at hf
      cases hf
    have he : e.octetsAt place = [] := by
      apply octetsAt_of_no_file
      intro id hf
      rw [he] at hf
      cases hf
    rw [hd, he]

theorem IsExtendedBy.addDirectory (he : place.isEnclosing = false) (hn : d.at? place = none) :
    d.IsExtendedBy (d.add place .directory) := by
  constructor
  · rfl
  · intro other
    rw [at?_add d place other .directory he]
    split
    · rename_i ho
      exact .inr ⟨ho ▸ hn, rfl⟩
    · exact .inl rfl

theorem makeAlong_spec {names : List Text} (hd : d.IsSound) (hh : d.at? here = some .directory) :
    (d.makeAlong here names).1.IsSound ∧ d.IsExtendedBy (d.makeAlong here names).1 := by
  induction names generalizing d here with
  | nil => exact ⟨hd, .refl d⟩
  | cons name names ih =>
    rw [makeAlong]
    split
    · exact ih hd hh
    split
    · exact ih hd (hd.at?_above hh)
    split
    · exact ⟨hd, .refl d⟩
    rename_i hu hl
    have he := Place.isEnclosing_name here hu
    dsimp only
    split
    · exact ih hd (by assumption)
    · exact ⟨hd, .refl d⟩
    · rename_i hn
      have hs := hd.addDirectory he hn (by rwa [List.dropLast_concat])
      obtain ⟨hs', hx⟩ := ih hs (by rw [at?_add d _ _ _ he, if_pos rfl])
      exact ⟨hs', (IsExtendedBy.addDirectory he hn).trans hx⟩

theorem at?_makeAlong {names : List Text}
    (h : ∀ n ≤ names.length, here.along (names.take n) ≠ place) :
    (d.makeAlong here names).1.at? place = d.at? place := by
  induction names generalizing d here with
  | nil => rfl
  | cons name names ih =>
    have hrest (n : Nat) (hn : n ≤ names.length) := h (n + 1) (Nat.succ_le_succ hn)
    simp only [List.take_succ_cons, Place.along] at hrest
    rw [makeAlong]
    split
    · rename_i hi
      simp only [if_pos hi] at hrest
      exact ih hrest
    rename_i hi
    simp only [if_neg hi] at hrest
    split
    · rename_i hu
      simp only [if_pos hu] at hrest
      exact ih hrest
    rename_i hu
    simp only [if_neg hu] at hrest
    split
    · rfl
    dsimp only
    split
    · exact ih hrest
    · rfl
    · have hnext : here ++ [SystemName.encode name] ≠ place := hrest 0 (Nat.zero_le _)
      rw [ih hrest, at?_add d _ _ _ (Place.isEnclosing_name here hu), if_neg (Ne.symm hnext)]

theorem makeDirectories_spec (hd : d.IsSound) (p : Location) :
    (d.makeDirectories p).1.IsSound ∧ d.IsExtendedBy (d.makeDirectories p).1 := by
  rw [makeDirectories]
  split
  · exact ⟨hd, .refl d⟩
  · exact makeAlong_spec hd d.at?_root

theorem at?_dropLast_of_follow {names : List Text} (hd : d.IsSound)
    (hh : here.isEnclosing = false → d.at? here.dropLast = some .directory)
    (h : d.follow here names = .ok place) (hp : place.isEnclosing = false) :
    d.at? place.dropLast = some .directory := by
  induction names generalizing here with
  | nil =>
    obtain rfl := Except.ok.inj h
    exact hh hp
  | cons name names ih =>
    have hdir := at?_of_follow_cons h
    simp only [follow, hdir] at h
    split at h
    · exact ih hh h
    split at h
    · have habove := hd.at?_above hdir
      exact ih (hd.rooted habove) h
    split at h
    · cases h
    · have hlast : d.at? (here ++ [SystemName.encode name]).dropLast = some .directory := by
        rwa [List.dropLast_concat]
      exact ih (fun _ => hlast) h

theorem at?_dropLast_of_locate (hd : d.IsSound) (h : d.locate p = .ok place)
    (hp : place.isEnclosing = false) : d.at? place.dropLast = some .directory := by
  apply at?_dropLast_of_follow hd _ (follow_of_locate h) hp
  intro he
  cases he

theorem at?_create (he : here.isEnclosing = false) (place : Place) :
    (d.create here).1.at? place =
      if place = here then some (.file d.contents.length) else d.at? place :=
  d.at?_add here place _ he

theorem treeAt_create (he : here.isEnclosing = false) (hp : ¬ place <+: here) :
    (d.create here).1.treeAt place = d.treeAt place := by
  funext below
  rw [treeAt, at?_create he, if_neg]
  · rfl
  · rintro rfl
    exact hp (List.prefix_append place below)

theorem content_create (d : Disk) (here : Place) (id : FileId) :
    (d.create here).1.content id = d.content id := by
  simp only [create, content, List.getD_eq_getElem?_getD, List.getElem?_append]
  split
  · rfl
  · rename_i hi
    rw [List.getElem?_eq_none (Nat.le_of_not_lt hi)]
    cases id - d.contents.length with
    | zero => rfl
    | succ _ => rfl

theorem content_next (d : Disk) : d.content d.contents.length = [] := by
  rw [content, List.getD_eq_getElem?_getD, List.getElem?_eq_none (Nat.le_refl _)]
  rfl

theorem octetsAt_create (hn : d.at? here = none) (place : Place) :
    (d.create here).1.octetsAt place = d.octetsAt place := by
  have he := isEnclosing_of_absent hn
  by_cases hp : place = here
  · subst hp
    rw [octetsAt_file (by rw [at?_create he, if_pos rfl]), content_create, content_next,
      octetsAt_of_no_file fun id => by rw [hn]; simp]
  · exact octetsAt_congr (by rw [at?_create he, if_neg hp]) fun id _ => content_create d here id

theorem openFile_eq_ok (h : d.openFile p = .ok (e, id)) :
    d.locate p = .ok p.place ∧
      (d.at? p.place = some (.file id) ∧ e = d ∨
        d.at? p.place = none ∧ e = (d.create p.place).1 ∧ id = d.contents.length) := by
  obtain ⟨place, hl, h⟩ := bind_eq_ok h
  obtain rfl := locate_eq_place hl
  constructor
  · exact hl
  · split at h
    · cases h
    · obtain ⟨rfl, rfl⟩ := Prod.mk.inj (Except.ok.inj h)
      exact .inl ⟨by assumption, rfl⟩
    · obtain ⟨rfl, rfl⟩ := Prod.mk.inj (Except.ok.inj h)
      exact .inr ⟨by assumption, rfl, rfl⟩

theorem openFile_spec (hd : d.IsSound) (h : d.openFile p = .ok (e, id)) :
    e.IsSound ∧ e.at? p.place = some (.file id) ∧
      (∀ place, place ≠ p.place → e.at? place = d.at? place) ∧
      ∀ place, e.octetsAt place = d.octetsAt place := by
  obtain ⟨hl, ⟨ha, rfl⟩ | ⟨hn, rfl, rfl⟩⟩ := openFile_eq_ok h
  · exact ⟨hd, ha, fun _ _ => rfl, fun _ => rfl⟩
  have he := isEnclosing_of_absent hn
  refine ⟨hd.create he hn (at?_dropLast_of_locate hd hl he), ?_, ?_, octetsAt_create hn⟩
  · rw [at?_create he, if_pos rfl]
  · intro place hp
    rw [at?_create he, if_neg hp]

structure CanRename (d : Disk) (old new : Location) : Prop where
  source : d.locate old = .ok old.place
  target : d.locate new = .ok new.place
  present : (d.at? old.place).isSome
  fits : d.at? new.place = some .directory → d.at? old.place = some .directory
  apart : ¬ old.place <+: new.place
  vacant : d.isVacant new.place = true

theorem rename_eq_ok (h : d.rename old new = .ok e) (hne : old.place ≠ new.place) :
    d.CanRename old new ∧ e = d.move old.place new.place := by
  obtain ⟨source, ho, h⟩ := bind_eq_ok h
  obtain rfl := locate_eq_place ho
  obtain ⟨target, hn, h⟩ := bind_eq_ok h
  obtain rfl := locate_eq_place hn
  split at h
  · cases h
  · cases h
  · cases h
  rename_i node hs hfile hdir
  rw [if_neg hne] at h
  split at h
  · cases h
  rename_i hp
  split at h
  · rename_i hv
    have hpresent : (d.at? old.place).isSome := by
      rw [hs]
      rfl
    have hfits (hd : d.at? new.place = some .directory) :
        d.at? old.place = some .directory := by
      cases node with
      | directory => exact hs
      | file id => exact (hfile id hd rfl).elim
    have hapart (hpre : old.place <+: new.place) : False :=
      hp (List.isPrefixOf_iff_prefix.mpr hpre)
    exact ⟨⟨ho, hn, hpresent, hfits, hapart, hv⟩, (Except.ok.inj h).symm⟩
  · cases h

theorem not_prefix_of_isVacant {source target : Place} (hv : d.isVacant target = true)
    (hs : (d.at? source).isSome) (he : source.isEnclosing = false) (hne : source ≠ target) :
    ¬ target <+: source := by
  intro hp
  rw [at?, he, if_neg Bool.false_ne_true, List.lookup_isSome_iff] at hs
  obtain ⟨⟨other, node⟩, hm, ho⟩ := hs
  obtain rfl : source = other := eq_of_beq ho
  have hb := List.all_eq_true.mp hv _ hm
  rw [Bool.not_eq_true', Bool.and_eq_false_iff, bne_eq_false_iff_eq] at hb
  rcases hb with hb | hb
  · exact absurd (List.isPrefixOf_iff_prefix.mpr hp) (Bool.eq_false_iff.mp hb)
  · exact hne hb

section

variable (hd : d.IsSound) (ho : d.locate old = .ok old.place) (hn : d.locate new = .ok new.place)
  (hs : (d.at? old.place).isSome) (hp : ¬ old.place <+: new.place)
include hd ho hn hs hp

theorem rename_of_fitting (ht : d.at? new.place ≠ some .directory)
    (hdir : d.at? old.place = some .directory → d.at? new.place = none) :
    d.rename old new = .ok (d.move old.place new.place) := by
  obtain ⟨node, hs⟩ := Option.isSome_iff_exists.mp hs
  have hne : old.place ≠ new.place := fun h => hp (h ▸ List.prefix_refl _)
  have hv : d.isVacant new.place := hd.isVacant ht
  have hpre : ¬ old.place.isPrefixOf new.place = true := fun h => hp (List.isPrefixOf_iff_prefix.mp h)
  simp only [rename, ho, hn, hs, bind, Except.bind, if_neg hne, if_neg hpre, if_pos hv]
  split
  · rename_i hnone
    cases hnone
  · rename_i hnew
    exact absurd hnew ht
  · rename_i hold hnew
    obtain rfl := Option.some.inj hold
    rw [hdir hs] at hnew
    cases hnew
  · rfl

theorem rename_of_absent (ht : d.at? new.place = none) :
    d.rename old new = .ok (d.move old.place new.place) :=
  rename_of_fitting hd ho hn hs hp (by rw [ht]; simp) fun _ => ht

end

theorem rename_ne_missing (ho : d.locate old = .ok place) (hs : (d.at? place).isSome)
    (hn : d.locate new ≠ .error .missing) : d.rename old new ≠ .error .missing := by
  obtain ⟨node, hs⟩ := Option.isSome_iff_exists.mp hs
  intro h
  simp only [rename, ho, bind, Except.bind] at h
  cases ht : d.locate new with
  | error cause =>
    rw [ht] at h hn
    exact hn (congrArg _ (Except.error.inj h))
  | ok target =>
    simp only [ht, hs] at h
    split at h
    · rename_i hnone
      cases hnone
    · cases h
    · cases h
    split at h
    · cases h
    split at h
    · cases h
    split at h
    · cases h
    · cases h

theorem at?_filter_ne {place : Place} (he : place.isEnclosing = false) (other : Place) :
    at? { d with nodes := d.nodes.filter (·.1 ≠ place) } other =
      if other = place then none else d.at? other := by
  simp only [at?, lookup_filter_ne]
  split
  · rename_i ho
    rw [if_neg]
    rintro rfl
    rw [he] at ho
    cases ho
  · rfl

theorem isSound_unlink {t : Text} (hd : d.IsSound) (h : d.unlink t = .ok e) : e.IsSound := by
  obtain ⟨place, _, h⟩ := bind_eq_ok h
  split at h
  · rename_i id hfile
    obtain rfl := Except.ok.inj h
    have he : place.isEnclosing = false := by
      rw [← Bool.not_eq_true]
      intro he
      rw [d.at?_of_isEnclosing he] at hfile
      cases hfile
    have ha := at?_filter_ne (d := d) he
    constructor
    · intro other node ho hoe
      rw [ha] at ho
      split at ho
      · cases ho
      · have hr := hd.rooted ho hoe
        rw [ha, if_neg, hr]
        intro hop
        rw [hop, hfile] at hr
        cases hr
    · intro other id ho
      rw [ha] at ho
      split at ho
      · cases ho
      · exact hd.held ho
    · intro a b id hia hib
      rw [ha] at hia hib
      split at hia
      · cases hia
      split at hib
      · cases hib
      exact hd.single hia hib
  · cases h
  · cases h

theorem isSound_makeWritten (hd : d.IsSound) (t : Text) : (d.makeWritten t).1.IsSound := by
  induction t using makeWritten.induct d with
  | case1 t hu =>
    rw [makeWritten, hu]
    exact (makeAlong_spec hd d.at?_root).1
  | case2 t cause hu ha =>
    rw [makeWritten, hu]
    dsimp only
    rw [dif_pos ha]
    exact hd
  | case3 t cause hu ha _ e other hm ih =>
    rw [makeWritten, hu]
    dsimp only
    rw [dif_neg ha, hm]
    rwa [hm] at ih
  | case4 t cause hu ha _ e hm ih =>
    rw [makeWritten, hu]
    dsimp only
    rw [dif_neg ha, hm]
    rwa [hm] at ih

end DriveBridge.Disk
