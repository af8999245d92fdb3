import DriveBridge.Proofs.Log.Lines
import DriveBridge.Proofs.Log.Reopening

namespace DriveBridge.Rotation

open Location

variable {p : Location} {d e : Disk} {place : Place}

theorem find_of_misses (hp : IsName p.fileName) (hu : Disk.unusable? p.text = none)
    (hm : d.Misses p) (i : Nat) :
    d.find (numbered p i) = .ok none ∨ d.find (numbered p i) = .error .nameTooLong := by
  have hc := unusable?_numbered hp hu i
  split at hc
  · exact .inr (find_of_unusable hc)
  · left
    rw [Disk.find, Disk.locate_of_misses (isName_numbered p i) hc ((misses_numbered i).mpr hm)]

theorem rotate_of_misses (hp : IsName p.fileName) (hu : Disk.unusable? p.text = none)
    (hm : d.Misses p) (n : Nat) : (rotate p (n + 1 : Nat) d).2 ≠ none := by
  induction n with
  | zero =>
    have hr : d.rename (generation p 0) (generation p 1) = .error .missing := by
      rw [Disk.rename, generation, Disk.locate_of_misses hp hu hm]
      rfl
    rw [rotate_one, hr]
    intro hdone
    cases hdone
  | succ n ih =>
    rw [rotate_succ]
    rcases find_of_misses hp hu hm (n + 1) with hf | hf
    · rw [generation, hf]
      exact ih
    · rw [generation, hf]
      intro hdone
      cases hdone

theorem at?_of_find (hp : IsName p.fileName) (hu : Disk.unusable? p.text = none)
    (hr : d.Reaches p) {i : Nat} {found : Option Node}
    (h : d.find (numbered p i) = .ok found) : d.at? (numbered p i).place = found := by
  cases found with
  | none => exact (locate_of_find_none hp hu h hr).2
  | some node => exact (Disk.locate_of_find_some h).2

/-- A shift of all generations up to `n` at once, with all that lies below them. The oldest one is
overwritten if there is one to take its place, and those beyond it stay. -/
structure MovesUp (p : Location) (n : Nat) (d e : Disk) : Prop where
  log : e.treeAt (generation p 0).place = Disk.noTree
  younger : ∀ j < n, e.treeAt (generation p (j + 1)).place = d.treeAt (generation p j).place
  oldest : e.treeAt (generation p (n + 1)).place =
    if (d.at? (generation p n).place).isSome then d.treeAt (generation p n).place
    else d.treeAt (generation p (n + 1)).place
  beyond : ∀ j, n + 1 < j → e.treeAt (generation p j).place = d.treeAt (generation p j).place

theorem treeAt_if_present (hd : d.IsSound) (i : Nat) :
    (if (d.at? (generation p i).place).isSome then d.treeAt (generation p i).place
      else Disk.noTree) = d.treeAt (generation p i).place := by
  split
  · rfl
  · rename_i hgap
    exact (hd.treeAt_of_absent (Option.not_isSome_iff_eq_none.mp hgap)).symm

theorem movesUp_one (hp : IsName p.fileName) (hpresent : (d.at? (generation p 0).place).isSome) :
    MovesUp p 0 d (d.move (generation p 0).place (generation p 1).place) := by
  constructor
  · rw [treeAt_move hp, if_neg (by omega), if_pos rfl]
  · intro j hj
    cases hj
  · rw [treeAt_move hp, if_pos rfl, if_pos hpresent]
  · intro j hj
    rw [treeAt_move hp, if_neg (by omega), if_neg (by omega)]

/-- A gap in the row stops the shift there, and what is beyond it stays. -/
theorem MovesUp.over_gap {n : Nat} (h : MovesUp p n d e) (hd : d.IsSound)
    (hnone : d.at? (generation p (n + 1)).place = none) : MovesUp p (n + 1) d e := by
  constructor
  · exact h.log
  · intro j hj
    rcases Nat.lt_succ_iff_lt_or_eq.mp hj with hj | rfl
    · exact h.younger j hj
    · rw [h.oldest, hd.treeAt_of_absent hnone, treeAt_if_present hd]
  · rw [h.beyond _ (by omega), hnone]
    rfl
  · intro j hj
    exact h.beyond j (by omega)

theorem MovesUp.of_move (hp : IsName p.fileName) {n : Nat} (hd : d.IsSound)
    (h : MovesUp p n (d.move (generation p (n + 1)).place (generation p (n + 2)).place) e)
    (hpresent : (d.at? (generation p (n + 1)).place).isSome) : MovesUp p (n + 1) d e := by
  constructor
  · exact h.log
  · intro j hj
    rcases Nat.lt_succ_iff_lt_or_eq.mp hj with hj | rfl
    · rw [h.younger j hj, treeAt_move hp, if_neg (by omega), if_neg (by omega)]
    · -- The place that was left is filled from below, or it stays as empty as the one below.
      have hkept := at?_move hp d (j + 1) j
      have hkeptTree := treeAt_move hp d (j + 1) j
      have hleft := treeAt_move hp d (j + 1) (j + 1)
      rw [if_neg (by omega), if_neg (by omega)] at hkept hkeptTree
      rw [if_neg (by omega), if_pos rfl] at hleft
      rw [h.oldest, hkept, hkeptTree, hleft, treeAt_if_present hd]
  · rw [h.beyond _ (by omega), treeAt_move hp, if_pos rfl, if_pos hpresent]
  · intro j hj
    rw [h.beyond j (by omega), treeAt_move hp, if_neg (by omega), if_neg (by omega)]

theorem movesUp_rotate (hp : IsName p.fileName) (hu : Disk.unusable? p.text = none) (n : Nat)
    (hd : Stays p d) (h : rotate p (n + 1 : Nat) d = (e, none)) : MovesUp p n d e := by
  induction n generalizing d with
  | zero =>
    rw [rotate_one] at h
    split at h
    · cases h
    · obtain ⟨rfl, _⟩ := h
      obtain ⟨_, rfl⟩ := rename_generation hp (by assumption)
      exact movesUp_one hp hd.present
  | succ n ih =>
    have hreaches : d.Reaches p := by
      rcases hd.way with hr | hm
      · exact hr
      · exact absurd (congrArg Prod.snd h) (rotate_of_misses hp hu hm (n + 1))
    rw [rotate_succ] at h
    split at h
    · cases h
    · rename_i hf
      exact (ih hd h).over_gap hd.sound (at?_of_find hp hu hreaches hf)
    · rename_i node hf
      split at h
      · cases h
      rename_i moved hr
      have hd' := (stays_of_rename hp hd hr).1
      obtain ⟨_, rfl⟩ := rename_generation hp hr
      apply (ih hd' h).of_move hp hd.sound
      rw [(Disk.locate_of_find_some hf).2]
      rfl

theorem at?_rotate (hp : IsName p.fileName) (hu : Disk.unusable? p.text = none) (n : Nat)
    (hd : Stays p d) (h : rotate p (n + 1 : Nat) d = (e, none)) :
    e.at? (generation p 0).place = none ∧
    (∀ j < n, e.at? (generation p (j + 1)).place = d.at? (generation p j).place) ∧
    e.at? (generation p (n + 1)).place =
      (d.at? (generation p n).place).or (d.at? (generation p (n + 1)).place) ∧
    ∀ j, n + 1 < j → e.at? (generation p j).place = d.at? (generation p j).place := by
  obtain ⟨hlog, hyounger, holdest, hbeyond⟩ := movesUp_rotate hp hu n hd h
  simp only [← Disk.treeAt_nil]
  refine ⟨?_, ?_, ?_, ?_⟩
  · rw [hlog]
    rfl
  · intro j hj
    rw [hyounger j hj]
  · rw [holdest]
    split
    · rename_i hsome
      rw [Disk.treeAt_nil, Option.or_of_isSome hsome]
    · rename_i hgap
      rw [Disk.treeAt_nil, Disk.treeAt_nil, Option.not_isSome_iff_eq_none.mp hgap, Option.none_or]
  · intro j hj
    rw [hbeyond j hj]

section

variable {i : Nat} {id : FileId} (hp : IsName p.fileName) (hd : d.IsSound)
  (hfile : d.at? (generation p i).place = some (.file id))
  (h : d.rename (generation p i) (generation p (i + 1)) = .ok e)
include hp hd hfile h

theorem at?_directory_of_rename (hdir : d.at? place = some .directory) :
    e.at? place = some .directory := by
  have hc := (rename_generation hp h).1
  have hsource : ¬ (generation p i).place <+: place := by
    intro hpre
    by_cases he : (generation p i).place = place
    · rw [he, hdir] at hfile
      cases hfile
    · rw [hd.at?_of_prefix hpre he (by rw [hdir]; rfl)] at hfile
      cases hfile
  have htarget : ¬ (generation p (i + 1)).place <+: place := by
    intro hpre
    have hold : d.at? (generation p (i + 1)).place = some .directory := by
      by_cases he : (generation p (i + 1)).place = place
      · rw [he, hdir]
      · exact hd.at?_of_prefix hpre he (by rw [hdir]; rfl)
    rw [hc.fits hold] at hfile
    cases hfile
  rw [at?_of_rename_generation hp h hsource htarget, hdir]

theorem reaches_of_rename (hr : d.Reaches p) : e.Reaches p := by
  apply Disk.reaches_of_way hr (isName_fileName_ne_nil hp)
  intro n hn
  exact at?_directory_of_rename hp hd hfile h (Disk.at?_way hr hn)

end

theorem reaches_rotate (hp : IsName p.fileName) (n : Nat) (hd : d.IsSound) {id : FileId}
    (hfile : d.at? p.place = some (.file id)) (h : rotate p (n + 1 : Nat) d = (e, none)) :
    e.Reaches p := by
  induction n generalizing d with
  | zero =>
    rw [rotate_one] at h
    split at h
    · cases h
    · rename_i hr
      obtain ⟨rfl, _⟩ := h
      obtain ⟨_, hloc, _⟩ := Disk.bind_eq_ok hr
      exact reaches_of_rename (i := 0) hp hd hfile hr (Disk.reaches_of_locate hp hloc).1
  | succ n ih =>
    rw [rotate_succ] at h
    split at h
    · cases h
    · exact ih hd hfile h
    · split at h
      · cases h
      rename_i hr
      have hs := isSound_rename_generation hp hd hr
      obtain ⟨_, rfl⟩ := rename_generation hp hr
      refine ih hs ?_ h
      have hmoved := at?_move hp d (n + 1) 0
      rw [if_neg (by omega), if_neg (by omega)] at hmoved
      exact hmoved.trans hfile

structure IsNameable (p : Location) (i : Nat) : Prop where
  path : Disk.unusable? (numbered p i).text = none
  name : Disk.isTooLong (numbered p i).fileName = false

namespace IsNameable

theorem locate {i : Nat} (h : IsNameable p i) (hr : d.Reaches p) :
    d.locate (numbered p i) = .ok (numbered p i).place := by
  have hloc := Disk.locate_of_reaches (isName_numbered p i) h.path ((reaches_numbered i).mpr hr)
  rwa [h.name, if_neg Bool.false_ne_true] at hloc

theorem mono (hp : IsName p.fileName) (hu : Disk.unusable? p.text = none) {i j : Nat}
    (hij : i ≤ j) (h : IsNameable p j) : IsNameable p i := by
  constructor
  · exact unusable?_mono hp hu hij h.path
  · have hname := h.name
    have hlength := length_numberedName_mono p.fileName hij
    rw [fileName_numbered, Disk.isTooLong, decide_eq_false_iff_not] at hname ⊢
    omega

end IsNameable

theorem rename_of_no_directory (hp : IsName p.fileName) (hd : d.IsSound) (hr : d.Reaches p)
    {i : Nat} (hfits : IsNameable p (i + 1))
    (hloc : d.locate (generation p i) = .ok (generation p i).place)
    (ha : (d.at? (generation p i).place).isSome)
    (hold : d.at? (generation p i).place ≠ some .directory)
    (hnew : d.at? (generation p (i + 1)).place ≠ some .directory) :
    d.rename (generation p i) (generation p (i + 1)) =
      .ok (d.move (generation p i).place (generation p (i + 1)).place) := by
  have hapart : ¬ (generation p i).place <+: (generation p (i + 1)).place := by
    rw [generation_isPrefix_iff hp]
    omega
  apply Disk.rename_of_fitting hd hloc (hfits.locate hr) ha hapart hnew
  exact fun hdir => absurd hdir hold

section

variable (hp : IsName p.fileName) (hu : Disk.unusable? p.text = none)
  (hl : Disk.isTooLong p.fileName = false)
include hp hu hl

theorem rotate_of_no_directory (n : Nat) (hd : Stays p d) (hr : d.Reaches p)
    (hfits : IsNameable p (n + 1))
    (hno : ∀ j ≤ n + 1, d.at? (generation p j).place ≠ some .directory) :
    (rotate p (n + 1 : Nat) d).2 = none := by
  induction n generalizing d with
  | zero =>
    have hloc := Disk.locate_of_reaches hp hu hr
    rw [hl, if_neg Bool.false_ne_true] at hloc
    have hren := rename_of_no_directory (i := 0) hp hd.sound hr hfits hloc hd.present
      (hno 0 (Nat.zero_le 1)) (hno 1 (Nat.le_refl 1))
    rw [rotate_one, hren]
  | succ n ih =>
    have hloc : d.locate (generation p (n + 1)) = .ok (generation p (n + 1)).place :=
      (hfits.mono hp hu (Nat.le_succ _)).locate hr
    rw [rotate_succ]
    split
    · rename_i hfind
      rw [Disk.find_of_locate hloc] at hfind
      cases hfind
    · exact ih hd hr (hfits.mono hp hu (Nat.le_succ _)) fun j hj => hno j (by omega)
    · rename_i node hfind
      have ha := (Disk.locate_of_find_some hfind).2
      have hren := rename_of_no_directory hp hd.sound hr hfits hloc (by rw [ha]; rfl)
        (hno (n + 1) (by omega)) (hno (n + 2) (Nat.le_refl _))
      obtain ⟨hd', _⟩ := stays_of_rename hp hd hren
      obtain ⟨id, hfile⟩ : ∃ id, d.at? (generation p (n + 1)).place = some (.file id) := by
        cases node with
        | directory => exact absurd ha (hno (n + 1) (by omega))
        | file id => exact ⟨id, ha⟩
      rw [hren]
      apply ih hd' (reaches_of_rename hp hd.sound hfile hren hr) (hfits.mono hp hu (Nat.le_succ _))
      intro j hj
      rw [at?_move hp, if_neg (by omega)]
      split
      · simp
      · exact hno j (by omega)

theorem rotate_of_files (n : Nat) (hd : Stays p d) (hr : d.Reaches p)
    (hf : ∀ j ≤ n, ∃ id, d.at? (generation p j).place = some (.file id))
    (h : d.find (generation p (n + 1)) = .ok none) : (rotate p (n + 1 : Nat) d).2 = none := by
  obtain ⟨hloc, hfree⟩ := locate_of_find_none hp hu h hr
  have hfits : IsNameable p (n + 1) := by
    constructor
    · exact unusable?_of_find_none hp hu h
    · exact (Disk.reaches_of_locate (isName_numbered p (n + 1)) hloc).2
  apply rotate_of_no_directory hp hu hl n hd hr hfits
  intro j hj
  rcases Nat.lt_or_eq_of_le hj with hj | rfl
  · obtain ⟨id, hid⟩ := hf j (Nat.le_of_lt_succ hj)
    rw [hid]
    simp
  · rw [generation, hfree]
    simp

theorem at?_rotate_refused (n : Nat) (hd : Stays p d) {r : Nat} {cause : Refusal}
    (hf : ∀ j ≤ r, ∃ id, d.at? (generation p j).place = some (.file id))
    (h : rotate p (n + 1 : Nat) d = (e, some cause)) :
    ∀ j ≤ r, e.at? (generation p j).place = d.at? (generation p j).place := by
  induction n generalizing d with
  | zero =>
    rw [rotate_one] at h
    split at h
    · obtain ⟨rfl, _⟩ := h
      exact fun _ _ => rfl
    · cases h
  | succ n ih =>
    rw [rotate_succ] at h
    split at h
    · obtain ⟨rfl, _⟩ := h
      exact fun _ _ => rfl
    · exact ih hd hf h
    rename_i node hfind
    split at h
    · obtain ⟨rfl, _⟩ := h
      exact fun _ _ => rfl
    rename_i moved hren
    obtain ⟨hd', hfree⟩ := stays_of_rename hp hd hren
    have hmove := (rename_generation hp hren).2
    have hmoved (j : Nat) (hj : j < n + 1) :
        moved.at? (generation p j).place = d.at? (generation p j).place := by
      rw [hmove, at?_move hp, if_neg (by omega), if_neg (by omega)]
    by_cases hrow : n + 1 ≤ r
    · -- The row of files goes on down to the log file, so that nothing is left to refuse.
      obtain ⟨id, hfile⟩ := hf (n + 1) hrow
      have hloc := (Disk.locate_of_find_some hfind).1
      have hreaches := (reaches_numbered (n + 1)).mp
        (Disk.reaches_of_locate (isName_numbered p (n + 1)) hloc).1
      have hdone : (rotate p (n + 1 : Nat) moved).2 = none := by
        apply rotate_of_files hp hu hl n hd' (reaches_of_rename hp hd.sound hfile hren hreaches)
          _ hfree
        intro j hj
        rw [hmoved j (by omega)]
        exact hf j (by omega)
      rw [h] at hdone
      cases hdone
    · intro j hj
      rw [← hmoved j (by omega)]
      apply ih hd' _ h j hj
      intro j hj
      rw [hmoved j (by omega)]
      exact hf j hj

end

def Spares (p : Location) (keep : Int) (place : Place) : Prop :=
  ∀ g ≤ depth keep, ¬ (generation p g).place <+: place

theorem at?_rotate_of_spares (hp : IsName p.fileName) {keep : Int} (h : Spares p keep place) :
    (rotate p keep d).1.at? place = d.at? place := by
  obtain ⟨n, hn⟩ := exists_depth_eq keep
  rw [Spares, hn] at h
  rw [rotate_depth, hn]
  clear hn
  have hmoved {d e : Disk} {i : Nat} (hi : i ≤ n)
      (hr : d.rename (generation p i) (generation p (i + 1)) = .ok e) :
      e.at? place = d.at? place :=
    at?_of_rename_generation hp hr (h _ (by omega)) (h _ (by omega))
  clear h
  induction n generalizing d with
  | zero =>
    rw [rotate_one]
    split
    · rfl
    · exact hmoved (Nat.le_refl _) (by assumption)
  | succ n ih =>
    have hrest {d : Disk} : (rotate p (n + 1 : Nat) d).1.at? place = d.at? place :=
      ih fun hi => hmoved (Nat.le_succ_of_le hi)
    rw [rotate_succ]
    split
    · rfl
    · exact hrest
    split
    · rfl
    · rw [hrest]
      exact hmoved (Nat.le_refl _) (by assumption)

end DriveBridge.Rotation
