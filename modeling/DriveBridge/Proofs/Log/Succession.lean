import DriveBridge.Proofs.Log.Drift

namespace DriveBridge

open Location Rotation

namespace Rotation

variable {p : Location} {keep : Int} {d e : Disk} {id new : FileId}

structure IsShifted (p : Location) (keep : Int) (d e : Disk) (new : FileId) : Prop where
  first : e.treeAt (generation p 1).place = d.treeAt p.place
  next : ∀ i, 1 ≤ i → i < depth keep → (d.at? (generation p i).place).isSome →
    e.treeAt (generation p (i + 1)).place = d.treeAt (generation p i).place
  gap : ∀ i, 1 ≤ i → i + 1 < depth keep → d.at? (generation p i).place = none →
    e.at? (generation p (i + 1)).place = none
  oldest : ∀ i, 1 ≤ i → i + 1 = depth keep → d.at? (generation p i).place = none →
    e.treeAt (generation p (i + 1)).place = d.treeAt (generation p (i + 1)).place
  beyond : ∀ j, depth keep < j → e.treeAt (generation p j).place = d.treeAt (generation p j).place
  log : e.find p = .ok (some (.file new))
  fresh : ∀ place, d.at? place ≠ some (.file new)
  blank : e.content new = []
  elsewhere : ∀ place, Spares p keep place → e.at? place = d.at? place
  contents : ∀ id, e.content id = d.content id

theorem at?_create_log (hnone : e.at? p.place = none) {place : Place} (hs : Spares p keep place) :
    (e.create p.place).1.at? place = e.at? place := by
  rw [Disk.at?_create (Disk.isEnclosing_of_absent hnone), if_neg]
  rintro rfl
  exact hs 0 (Nat.zero_le _) (List.prefix_refl _)

section

variable (hp : IsName p.fileName)
include hp

theorem spares_generation {j : Nat} (hj : depth keep < j) (below : Place) :
    Spares p keep ((generation p j).place ++ below) := by
  intro g hg
  rw [generation_isPrefix_append_iff hp]
  omega

theorem treeAt_create_log (hnone : e.at? p.place = none) (i : Nat) :
    (e.create p.place).1.treeAt (generation p (i + 1)).place =
      e.treeAt (generation p (i + 1)).place := by
  have hapart : ¬ (generation p (i + 1)).place <+: (generation p 0).place := by
    rw [generation_isPrefix_iff hp]
    omega
  exact Disk.treeAt_create (Disk.isEnclosing_of_absent hnone) hapart

theorem isShifted_create (hd : d.IsSound) (hf : d.find p = .ok (some (.file id)))
    (h : rotate p keep d = (e, none)) : e.openFile p = .ok (e.create p.place) ∧
      IsShifted p keep d (e.create p.place).1 (e.create p.place).2 := by
  obtain ⟨hloc, ha⟩ := Disk.locate_of_find_some hf
  have hopen := openFile_rotated hd hf h
  have hstays := stays_of_find hp hd hf
  have hcontents : e.contents = d.contents := by
    rw [← contents_rotate p keep d, h]
  have hspared {place : Place} (hs : Spares p keep place) : e.at? place = d.at? place := by
    have hrotated := at?_rotate_of_spares (d := d) hp hs
    rwa [h] at hrotated
  obtain ⟨n, hn⟩ := exists_depth_eq keep
  rw [rotate_depth, hn] at h
  obtain ⟨hlog, hyounger, holdest, _⟩ :=
    movesUp_rotate hp (Disk.unusable?_of_locate hloc) n hstays h
  have hnone : e.at? p.place = none := by
    rw [← Disk.treeAt_nil]
    exact congrFun hlog []
  have hmoved (i : Nat) (hi : i ≤ n) (hsome : (d.at? (generation p i).place).isSome) :
      (e.create p.place).1.treeAt (generation p (i + 1)).place =
        d.treeAt (generation p i).place := by
    rw [treeAt_create_log hp hnone]
    rcases Nat.lt_or_eq_of_le hi with hi | rfl
    · exact hyounger i hi
    · rw [holdest, if_pos hsome]
  refine ⟨hopen, ?_⟩
  constructor
  case first => exact hmoved 0 (Nat.zero_le n) hstays.present
  case next =>
    intro i _ hi hsome
    exact hmoved i (by omega) hsome
  case gap =>
    intro i _ hi hgap
    rw [← Disk.treeAt_nil, treeAt_create_log hp hnone, hyounger i (by omega), Disk.treeAt_nil, hgap]
  case oldest =>
    intro i _ hi hgap
    obtain rfl : i = n := by omega
    rw [treeAt_create_log hp hnone, holdest, hgap]
    rfl
  case beyond =>
    intro j hj
    funext below
    have hs := spares_generation hp hj below
    exact (at?_create_log hnone hs).trans (hspared hs)
  case log => exact Disk.find_of_openFile hopen
  case fresh =>
    intro place hnew
    have hheld := hd.held hnew
    rw [← hcontents] at hheld
    exact Nat.lt_irrefl _ hheld
  case blank =>
    rw [Disk.content_create]
    exact Disk.content_next e
  case elsewhere =>
    intro place hs
    rw [at?_create_log hnone hs, hspared hs]
  case contents =>
    intro id
    rw [Disk.content_create, Disk.content, Disk.content, hcontents]

end

theorem IsShifted.exists_former (h : IsShifted p keep d e new) (i : Nat) :
    e.at? (generation p (i + 1)).place = none ∨
      ∃ j ≤ i + 1, e.at? (generation p (i + 1)).place = d.at? (generation p j).place := by
  have hsame {i j : Nat} (ht : e.treeAt (generation p i).place = d.treeAt (generation p j).place) :
      e.at? (generation p i).place = d.at? (generation p j).place := by
    rw [← Disk.treeAt_nil, ht, Disk.treeAt_nil]
  cases i with
  | zero => exact .inr ⟨0, Nat.zero_le 1, hsame h.first⟩
  | succ i =>
    by_cases hbeyond : depth keep < i + 2
    · exact .inr ⟨i + 2, Nat.le_refl _, hsame (h.beyond (i + 2) hbeyond)⟩
    cases hold : d.at? (generation p (i + 1)).place with
    | some node =>
      have hpresent : (d.at? (generation p (i + 1)).place).isSome := by
        rw [hold]
        rfl
      exact .inr ⟨i + 1, Nat.le_succ _, hsame (h.next (i + 1) (by omega) (by omega) hpresent)⟩
    | none =>
      by_cases hlast : i + 2 = depth keep
      · exact .inr ⟨i + 2, Nat.le_refl _, hsame (h.oldest (i + 1) (by omega) hlast hold)⟩
      · exact .inl (h.gap (i + 1) (by omega) (by omega) hold)

theorem IsShifted.find_former (h : IsShifted p keep d e new) (hd : d.IsSound)
    (hf : d.find p = .ok (some (.file id))) {i : Nat} {node : Node}
    (hfound : e.find (generation p (i + 1)) = .ok (some node)) :
    ∃ j ≤ i + 1, d.find (generation p j) = .ok (some node) := by
  obtain ⟨hloc, ha⟩ := Disk.locate_of_find_some hfound
  have hfits : IsNameable p (i + 1) := by
    constructor
    · exact Disk.unusable?_of_locate hloc
    · exact (Disk.reaches_of_locate (isName_numbered p (i + 1)) hloc).2
  rcases h.exists_former i with hnone | ⟨j, hj, hformer⟩
  · cases hnone.symm.trans ha
  · refine ⟨j, hj, ?_⟩
    rw [find_of_nameable hd hf hfits hj, ← hformer, ha]

end Rotation

namespace Logger

variable {p : Location} {keep : Int} {d : Disk} {l : Logger} {id : FileId}

theorem makeRoom_of_rotated (hd : d.IsSound) (hpath : l.path = some p)
    (hkeep : l.keep.integer? = some keep) (hfile : d.find p = .ok (some (.file id)))
    (hlimit : l.limit.isTrue) (hsize : l.limit.bounds? (d.content id).length = some false)
    (hdone : (rotate p keep d).2 = none) : ∃ e new,
      l.makeRoom d = (e, { l with sink := some (.file new) }, none) ∧
      IsShifted p keep d e new := by
  have hp := isName_of_find hd hfile
  have hrotate : rotate p keep d = ((rotate p keep d).1, none) := Prod.ext rfl hdone
  obtain ⟨hopen, hshift⟩ := isShifted_create hp hd hfile hrotate
  have hdue : isDue? p l.limit d = some true := by
    rw [isDue?_of_file hfile hlimit, hsize]
    rfl
  refine ⟨_, _, ?_, hshift⟩
  rw [makeRoom, hpath]
  dsimp only
  rw [hdue, hkeep]
  dsimp only
  rw [hopen]

end Logger

/-- When a rotation goes through, the log file and its rotated files have moved up by one all at
once before the line of the call is written, and it is written to a new file. -/
theorem log_after_rotation {p : Location} {l : Logger} {w : World} {level : Level}
    {message : Value} {context : List (Value × Value)} {line : Text} {keep : Int} {id : FileId}
    (hd : w.disk.IsSound) (hpath : l.path = some p) (hopen : l.sink.isSome)
    (hkeep : l.keep.integer? = some keep) (hfile : w.disk.find p = .ok (some (.file id)))
    (hlimit : l.limit.isTrue)
    (hsize : l.limit.bounds? (w.disk.content id).length = some false)
    (hline : l.line w.now level message context = .ok line)
    (hdone : (rotate p keep w.disk).2 = none) :
    ∃ e new w', IsShifted p keep w.disk e new ∧
      l.makeRoom w.disk = (e, { l with sink := some (.file new) }, none) ∧
      l.log level message context w = (w', { l with sink := some (.file new) }, none) ∧
      w'.disk = e.append new (Utf8.encode (line ++ [CodePoint.newline])) := by
  obtain ⟨e, new, hroom, hshift⟩ :=
    Logger.makeRoom_of_rotated hd hpath hkeep hfile hlimit hsize hdone
  obtain ⟨w', hlog, hwritten⟩ := Logger.log_of_room hline hopen hroom rfl
  exact ⟨e, new, w', hshift, hroom, hlog, hwritten⟩

namespace Patchy

def path : Location := ⟨.relative, ["a.log"]⟩

def place (name : Text) : Place := [SystemName.encode name]

def disk : Disk :=
  let d := (Disk.empty.create (place "a.log")).1.append 0 [1, 2]
  let d := ((d.add (place "a.1.log") .directory).create (place "a.1.log" ++ place "x")).1
  (d.create (place "a.3.log")).1

theorem isSound_disk : disk.IsSound := by
  apply Disk.IsSound.create _ rfl rfl rfl
  apply Disk.IsSound.create _ rfl rfl rfl
  apply Disk.IsSound.addDirectory _ rfl rfl rfl
  apply Disk.IsSound.append
  exact Disk.isSound_empty.create rfl rfl rfl

def world : World := ⟨0, [], [], [], disk⟩

def logger : Logger :=
  ⟨"c", "s", 0, ⟨.bool true, [], []⟩, .int 1, .int 3, .bool false, some path, some (.file 0)⟩

theorem moved_up : (rotate path 3 disk).2 = none ∧
    ∃ (line : Text) (e : Disk) (new : FileId) (w' : World),
    logger.line 0 .info (.text "m") [] = .ok line ∧
    logger.log .info (.text "m") [] world = (w', { logger with sink := some (.file new) }, none) ∧
    w'.disk = e.append new (Utf8.encode (line ++ [CodePoint.newline])) ∧
    e.at? (place "a.1.log") = some (.file 0) ∧
    e.at? (place "a.2.log" ++ place "x") = some (.file 1) ∧
    e.at? (place "a.3.log") = some (.file 2) := by
  have hline : ∃ line, logger.line 0 .info (.text "m") [] = .ok line := by
    cbv
    exact ⟨_, rfl⟩
  have hdone : (rotate path 3 disk).2 = none := by
    apply Option.isNone_iff_eq_none.mp
    decide +kernel
  obtain ⟨line, hline⟩ := hline
  obtain ⟨e, new, w', hshift, _, hlog, hwritten⟩ :=
    log_after_rotation (w := world) isSound_disk rfl rfl rfl rfl rfl (by decide +kernel) hline hdone
  refine ⟨hdone, line, e, new, w', hline, hlog, hwritten, ?_, ?_, ?_⟩
  · exact congrFun hshift.first []
  · exact congrFun (hshift.next 1 (by decide) (by decide) rfl) (place "x")
  · exact congrFun (hshift.oldest 2 (by decide) rfl rfl) []

end Patchy

end DriveBridge
