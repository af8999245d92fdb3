import DriveBridge.Proofs.Log.RefusedCall
import DriveBridge.Proofs.Log.RefusedRotation

namespace DriveBridge

open Location Rotation

variable {p : Location} {d e : Disk} {here place : Place}

namespace Location

/-- No directory on the way to a log file lies at one of its rotated names or below it. -/
def IsDirect (p : Location) : Prop :=
  ∀ n < p.names.length, ∀ i, ¬ (numbered p (i + 1)).place <+: Place.along [] (p.names.take n)

theorem prefix_along {names : List Text} (h : Disk.upward ∉ names) :
    here <+: Place.along here names := by
  induction names generalizing here with
  | nil => exact List.prefix_refl _
  | cons name names ih =>
    rw [List.mem_cons, not_or] at h
    rw [Place.along]
    split
    · exact ih h.2
    · rw [if_neg fun hu => h.1 hu.symm]
      exact (List.prefix_append _ _).trans (ih h.2)

def IsDirectTo (p : Location) (k : Nat) : Prop :=
  ∀ n < p.names.length, ∀ i < k,
    ¬ (numbered p (i + 1)).place <+: Place.along [] (p.names.take n)

theorem IsDirect.to (h : p.IsDirect) (k : Nat) : p.IsDirectTo k := fun n hn i _ => h n hn i

theorem prefix_home (h : Disk.upward ∉ p.names) {n : Nat} (hn : n < p.names.length) :
    Place.along [] (p.names.take n) <+: p.home := by
  have hsplit : p.names.dropLast = p.names.take n ++ p.names.dropLast.drop n := by
    have htake : p.names.take n = p.names.dropLast.take n := by
      rw [List.dropLast_eq_take, List.take_take, Nat.min_eq_left (by omega)]
    rw [htake, List.take_append_drop]
  rw [home, hsplit, Place.along_append]
  apply prefix_along
  exact fun hu => h (List.dropLast_subset _ (List.drop_subset _ _ hu))

theorem isDirect_of_not_upward (h : Disk.upward ∉ p.names) : p.IsDirect := by
  intro n hn i hbelow
  have hlength := (hbelow.trans (prefix_home h hn)).length_le
  rw [place_numbered, List.length_append, List.length_singleton] at hlength
  omega

end Location

namespace Disk

theorem at?_along_of_follow {names : List Text} (h : d.follow here names = .ok place) {n : Nat}
    (hn : n < names.length) : d.at? (here.along (names.take n)) = some .directory := by
  induction names generalizing here n with
  | nil => cases hn
  | cons name names ih =>
    have hdir := at?_of_follow_cons h
    cases n with
    | zero => exact hdir
    | succ n =>
      have hn := Nat.lt_of_succ_lt_succ hn
      simp only [follow, hdir] at h
      rw [List.take_succ_cons, Place.along]
      split at h
      · rw [if_pos (by assumption)]
        exact ih h hn
      rw [if_neg (by assumption)]
      split at h
      · rw [if_pos (by assumption)]
        exact ih h hn
      rw [if_neg (by assumption)]
      split at h
      · cases h
      · exact ih h hn

theorem follow_of_along {names : List Text} (h : d.follow here names = .ok place)
    (he : ∀ n < names.length, e.at? (here.along (names.take n)) = some .directory) :
    e.follow here names = .ok place := by
  induction names generalizing here with
  | nil => exact h
  | cons name names ih =>
    have hdir := at?_of_follow_cons h
    have hhere := he 0 (Nat.zero_lt_succ _)
    have hrest (n : Nat) (hn : n < names.length) := he (n + 1) (Nat.succ_lt_succ hn)
    simp only [List.take_succ_cons, Place.along] at hrest
    rw [List.take_zero, Place.along] at hhere
    simp only [follow, hdir] at h
    simp only [follow, hhere]
    split at h
    · rename_i hi
      simp only [if_pos hi] at hrest ⊢
      exact ih h hrest
    rename_i hi
    simp only [if_neg hi] at hrest ⊢
    split at h
    · rename_i hu
      simp only [if_pos hu] at hrest ⊢
      exact ih h hrest
    rename_i hu
    simp only [if_neg hu] at hrest ⊢
    split at h
    · cases h
    rw [if_neg (by assumption)]
    exact ih h hrest

theorem find_of_openFile {id : FileId} (h : d.openFile p = .ok (e, id)) :
    e.find p = .ok (some (.file id)) := by
  obtain ⟨hloc, ⟨ha, rfl⟩ | ⟨hn, rfl, rfl⟩⟩ := openFile_eq_ok h
  · rw [find_of_locate hloc, ha]
  have hcreate := at?_create (d := d) (isEnclosing_of_absent hn)
  have hloc' : (d.create p.place).1.locate p = .ok p.place := by
    have hfollow := follow_of_locate hloc
    rw [locate, walk, unusable?_of_locate hloc]
    apply follow_of_along hfollow
    intro n hway
    have hdir := at?_along_of_follow hfollow hway
    rw [hcreate, if_neg, hdir]
    intro hsame
    rw [hsame, hn] at hdir
    cases hdir
  rw [find_of_locate hloc', hcreate, if_pos rfl]

theorem at?_way (h : d.Reaches p) {n : Nat} (hn : n < p.names.length) :
    d.at? (Place.along [] (p.names.take n)) = some .directory := by
  by_cases hlast : n < p.names.dropLast.length
  · have hway := at?_along_of_follow h.1 hlast
    rwa [List.dropLast_eq_take, List.take_take, Nat.min_eq_left (by omega)] at hway
  · have hhome := h.2
    rw [List.length_dropLast] at hlast
    rwa [home, List.dropLast_eq_take, show p.names.length - 1 = n by omega] at hhome

theorem at?_makeDirectories (hp : p.names ≠ []) {i k : Nat} (hdirect : p.IsDirectTo k)
    (hi : i < k) : (d.makeDirectories p.parent).1.at? (Rotation.numbered p (i + 1)).place =
      d.at? (Rotation.numbered p (i + 1)).place := by
  have hlength := List.length_pos_iff.mpr hp
  rw [makeDirectories]
  split
  · rfl
  · apply at?_makeAlong
    intro n hn hsame
    rw [Location.parent, List.length_dropLast] at hn
    rw [Location.parent, List.dropLast_eq_take, List.take_take, Nat.min_eq_left hn] at hsame
    exact hdirect n (by omega) i hi (hsame ▸ List.prefix_refl _)

theorem reaches_of_way (h : d.Reaches p) (hp : p.names ≠ [])
    (he : ∀ n < p.names.length, e.at? (Place.along [] (p.names.take n)) = some .directory) :
    e.Reaches p := by
  have hlength := List.length_pos_iff.mpr hp
  constructor
  · apply follow_of_along h.1
    intro n hn
    rw [List.length_dropLast] at hn
    rw [List.dropLast_eq_take, List.take_take, Nat.min_eq_left (by omega)]
    exact he n (by omega)
  · rw [home, List.dropLast_eq_take]
    exact he _ (by omega)

end Disk

namespace Rotation

structure LeadsTo (p : Location) (d : Disk) : Prop where
  sound : d.IsSound
  reaches : d.Reaches p
  noDirectory : d.at? p.place ≠ some .directory

theorem LeadsTo.of_find (hd : d.IsSound) {id : FileId} (hf : d.find p = .ok (some (.file id))) :
    LeadsTo p d := by
  refine ⟨hd, Disk.reaches_of_find (isName_of_find hd hf) hf, ?_⟩
  rw [(Disk.locate_of_find_some hf).2]
  simp

theorem LeadsTo.not_prefix_way (h : LeadsTo p d) {n : Nat} (hn : n < p.names.length) :
    ¬ p.place <+: Place.along [] (p.names.take n) := by
  intro hbelow
  have hway := Disk.at?_way h.reaches hn
  by_cases hsame : p.place = Place.along [] (p.names.take n)
  · exact h.noDirectory (hsame ▸ hway)
  · exact h.noDirectory (h.sound.at?_of_prefix hbelow hsame (by rw [hway]; rfl))

section

variable (hp : IsName p.fileName)
include hp

theorem LeadsTo.rename {i k : Nat} (hdirect : p.IsDirectTo k) (hi : i < k) (h : LeadsTo p d)
    (hr : d.rename (generation p i) (generation p (i + 1)) = .ok e) : LeadsTo p e := by
  have hway : ∀ n < p.names.length,
      e.at? (Place.along [] (p.names.take n)) = some .directory := by
    intro n hn
    have hsource : ¬ (generation p i).place <+: Place.along [] (p.names.take n) := by
      cases i with
      | zero => exact h.not_prefix_way hn
      | succ i => exact hdirect n hn i (by omega)
    rw [at?_of_rename_generation hp hr hsource (hdirect n hn i hi)]
    exact Disk.at?_way h.reaches hn
  refine ⟨isSound_rename_generation hp h.sound hr,
    Disk.reaches_of_way h.reaches (isName_fileName_ne_nil hp) hway, ?_⟩
  obtain ⟨_, rfl⟩ := rename_generation hp hr
  have hmoved := at?_move hp d i 0
  rw [if_neg (by omega)] at hmoved
  split at hmoved
  · exact fun hdir => nomatch hmoved.symm.trans hdir
  · exact fun hdir => h.noDirectory (hmoved.symm.trans hdir)

theorem LeadsTo.rotate {keep : Int} (hdirect : p.IsDirectTo (depth keep)) (h : LeadsTo p d) :
    LeadsTo p (rotate p keep d).1 := by
  obtain ⟨n, hn⟩ := exists_depth_eq keep
  rw [rotate_depth, hn]
  have hk : n + 1 ≤ depth keep := Nat.le_of_eq hn.symm
  clear hn
  induction n generalizing d with
  | zero =>
    rw [rotate_one]
    split
    · exact h
    · exact h.rename hp hdirect hk (by assumption)
  | succ n ih =>
    rw [rotate_succ]
    split
    · exact h
    · exact ih h (by omega)
    split
    · exact h
    · exact ih (h.rename hp hdirect hk (by assumption)) (by omega)

theorem openFile_rotate {keep : Int} (hdirect : p.IsDirectTo (depth keep)) {id : FileId}
    (hd : d.IsSound) (hf : d.find p = .ok (some (.file id))) :
    ∃ opened, (Rotation.rotate p keep d).1.openFile p = .ok opened := by
  have hloc := (Disk.locate_of_find_some hf).1
  have hlong := (Disk.reaches_of_locate hp hloc).2
  have hrotated := (LeadsTo.of_find hd hf).rotate hp hdirect
  have hloc' := Disk.locate_of_reaches hp (Disk.unusable?_of_locate hloc) hrotated.reaches
  rw [hlong, if_neg Bool.false_ne_true] at hloc'
  have hnode := hrotated.noDirectory
  simp only [Disk.openFile, hloc', bind, Except.bind]
  split
  · rename_i hdir
    exact absurd hdir hnode
  · exact ⟨_, rfl⟩
  · exact ⟨_, rfl⟩

end

end Rotation

namespace Logger

variable {l l' : Logger} {w w' : World}

def IsSafeOn (l : Logger) (d : Disk) : Prop :=
  ∀ p, l.path = some p →
    l.keep.integer?.isSome ∧ p.IsDirect ∧ d.find p ≠ .ok (some .directory)

theorem makeRoom_of_safe (hd : d.IsSound) (hs : l.IsSafeOn d) {d' : Disk}
    {failure : Option LogError} (h : l.makeRoom d = (d', l', failure)) :
    (l'.sink = l.sink ∨ ∃ id, l'.sink = some (.file id)) ∧
      ((l.path.isSome → l.IsNumeric) → failure = none) := by
  rw [makeRoom] at h
  split at h
  · cases h
    exact ⟨.inl rfl, fun _ => rfl⟩
  rename_i p hpath
  obtain ⟨hkeep, hdirect, hnode⟩ := hs p hpath
  split at h
  · rename_i hnone
    cases h
    refine ⟨.inl rfl, ?_⟩
    intro hl
    have hdue := isSome_isDue? (hl (by rw [hpath]; rfl)).limit p d
    rw [hnone] at hdue
    cases hdue
  · cases h
    exact ⟨.inl rfl, fun _ => rfl⟩
  · rename_i hnone
    rw [hnone] at hkeep
    cases hkeep
  · rename_i keep hdue _
    have hfile : ∃ id, d.find p = .ok (some (.file id)) := by
      obtain ⟨node, hf⟩ := find_of_isDue? hdue
      cases node with
      | directory => exact absurd hf hnode
      | file id => exact ⟨id, hf⟩
    obtain ⟨id, hf⟩ := hfile
    have hp := isName_of_find hd hf
    obtain ⟨opened, ho⟩ := openFile_rotate hp (hdirect.to (depth keep)) hd hf
    dsimp only at h
    rw [ho] at h
    cases h
    exact ⟨.inr ⟨_, rfl⟩, fun _ => rfl⟩

theorem put_of_sink {t : Text} (h : l.sink ≠ some .lost) : (l.put t w).2 = none := by
  rw [put]
  split
  · rfl
  · rfl
  · rfl
  · exact absurd (by assumption) h

theorem deliver_of_safe (hd : w.disk.IsSound) (hs : l.IsSafeOn w.disk)
    (hsink : l.sink ≠ some .lost) {line : Text} {failure : Option LogError}
    (h : l.deliver line w = (w', l', failure)) :
    l'.sink ≠ some .lost ∧ ((l.path.isSome → l.IsNumeric) → failure = none) := by
  have hw := l.disk_console (line ++ [CodePoint.newline]) w
  rw [deliver] at h
  dsimp only at h
  rw [hw] at h
  split at h
  · cases h
    exact ⟨hsink, fun _ => rfl⟩
  have hroom {d' : Disk} {room : Option LogError} (hm : l.makeRoom w.disk = (d', l', room)) :
      l'.sink ≠ some .lost ∧ ((l.path.isSome → l.IsNumeric) → room = none) := by
    obtain ⟨hsame | ⟨id, hid⟩, hnone⟩ := makeRoom_of_safe hd hs hm
    · exact ⟨hsame ▸ hsink, hnone⟩
    · exact ⟨by rw [hid]; simp, hnone⟩
  split at h
  · rename_i hm
    cases h
    exact hroom hm
  · rename_i hm
    cases h
    exact ⟨(hroom hm).1, fun _ => put_of_sink (hroom hm).1⟩

theorem log_of_safe (hd : w.disk.IsSound) (hs : l.IsSafeOn w.disk) (hsink : l.sink ≠ some .lost)
    {level : Level} {message : Value} {context : List (Value × Value)} {failure : Option LogError}
    (h : l.log level message context w = (w', l', failure)) :
    l'.sink ≠ some .lost ∧ ((l.path.isSome → l.IsNumeric) →
      ∀ line, l.line w.now level message context = .ok line → failure = none) := by
  rw [log] at h
  split at h
  · obtain ⟨hlost, hnone⟩ := deliver_of_safe hd hs hsink h
    exact ⟨hlost, fun hl _ _ => hnone hl⟩
  · rename_i cause hline
    cases h
    refine ⟨hsink, ?_⟩
    intro _ line hok
    cases hline.symm.trans hok

theorem makeRoom_eq_with {d' : Disk} {failure : Option LogError}
    (h : l.makeRoom d = (d', l', failure)) : l' = { l with sink := l'.sink } := by
  rcases makeRoom_cases h with
    ⟨_, rfl | ⟨_, rfl⟩⟩ | ⟨_, _, _, _, _, _, ⟨_, _, rfl⟩ | ⟨_, _, _, rfl⟩⟩
  all_goals rfl

theorem deliver_eq_with {line : Text} {failure : Option LogError}
    (h : l.deliver line w = (w', l', failure)) : l' = { l with sink := l'.sink } := by
  rcases deliver_cases h with ⟨_, rfl, _⟩ | ⟨_, _, hm, _⟩
  · rfl
  · exact makeRoom_eq_with hm

theorem log_eq_with {level : Level} {message : Value} {context : List (Value × Value)}
    {failure : Option LogError} (h : l.log level message context w = (w', l', failure)) :
    l' = { l with sink := l'.sink } := by
  rw [log] at h
  split at h
  · exact deliver_eq_with h
  · cases h
    rfl

end Logger

end DriveBridge
