import DriveBridge.Proofs.Log.Retention
import DriveBridge.Proofs.Log.Shift

namespace DriveBridge

open Location

namespace Disk

variable {p q : Location} {d e : Disk} {id : FileId}

structure KeepsNodes (d e : Disk) : Prop where
  numbers : d.contents.length ≤ e.contents.length
  nodes : ∀ {place node}, d.at? place = some node → e.at? place = some node

theorem KeepsNodes.refl (d : Disk) : d.KeepsNodes d := ⟨Nat.le_refl _, fun h => h⟩

theorem KeepsNodes.trans {f : Disk} (hde : d.KeepsNodes e) (hef : e.KeepsNodes f) :
    d.KeepsNodes f :=
  ⟨Nat.le_trans hde.numbers hef.numbers, fun h => hef.nodes (hde.nodes h)⟩

theorem KeepsNodes.find (h : d.KeepsNodes e) {node : Node} (hf : d.find q = .ok (some node)) :
    e.find q = .ok (some node) := by
  obtain ⟨hloc, ha⟩ := locate_of_find_some hf
  have hloc' : e.locate q = .ok q.place := by
    have hfollow := follow_of_locate hloc
    rw [locate, walk, unusable?_of_locate hloc]
    exact follow_of_along hfollow fun n hn => h.nodes (at?_along_of_follow hfollow hn)
  rw [find_of_locate hloc', h.nodes ha]

theorem IsExtendedBy.keepsNodes (h : d.IsExtendedBy e) : d.KeepsNodes e :=
  ⟨Nat.le_of_eq (congrArg List.length h.contents).symm, h.at?_of_some⟩

theorem keepsNodes_append (d : Disk) (id : FileId) (octets : List UInt8) :
    d.KeepsNodes (d.append id octets) :=
  ⟨Nat.le_of_eq (List.length_modify ..).symm, fun h => h⟩

theorem keepsNodes_openFile (h : d.openFile p = .ok (e, id)) : d.KeepsNodes e := by
  obtain ⟨_, ⟨_, rfl⟩ | ⟨hn, rfl, _⟩⟩ := openFile_eq_ok h
  · exact .refl e
  · constructor
    · rw [create, List.length_append]
      exact Nat.le_add_right _ _
    · intro place node hnode
      rw [at?_create (isEnclosing_of_absent hn), if_neg, hnode]
      rintro rfl
      rw [hn] at hnode
      cases hnode

theorem keepsNodes_openBelow (hd : d.IsSound) (p : Location) : d.KeepsNodes (d.openBelow p).1 := by
  have hmade : d.KeepsNodes (d.makeDirectories p.parent).1 :=
    (makeDirectories_spec hd p.parent).2.keepsNodes
  rw [openBelow]
  generalize d.makeDirectories p.parent = made at hmade ⊢
  obtain ⟨made, refusal⟩ := made
  cases refusal with
  | some cause => exact hmade
  | none =>
    rw [openAfter]
    split
    · rename_i ho
      exact hmade.trans (keepsNodes_openFile ho)
    · exact hmade

end Disk

theorem keepsNodes_make {w w' : World} (hd : w.disk.IsSound) {o : LoggerOptions}
    {outcome : Except LogError Logger} (h : o.make w = (w', outcome)) :
    w.disk.KeepsNodes w'.disk := by
  rcases LoggerOptions.make_cases h with ⟨hw, _⟩ | ⟨p, opened, _, hb, _⟩
  · rw [hw]
    exact .refl w.disk
  · have hkept := Disk.keepsNodes_openBelow hd p
    rwa [hb] at hkept

namespace Rotation

variable {p : Location} {keep : Int} {d e : Disk} {id : FileId}

def HasRow (p : Location) (d : Disk) (r : Nat) : Prop :=
  ∀ g ≤ r, ∃ id, d.find (generation p g) = .ok (some (.file id))

structure KeepsRow (p : Location) (keep : Int) (d e : Disk) : Prop where
  numbers : d.contents.length ≤ e.contents.length
  row : ∀ g ≤ depth keep, HasRow p d g → e.find (generation p g) = d.find (generation p g)

/-- Files in a row from the log file on move up by one, and there is a new log file. -/
structure ShiftsRow (p : Location) (keep : Int) (d e : Disk) : Prop where
  numbers : d.contents.length ≤ e.contents.length
  log : e.find p = .ok (some (.file d.contents.length))
  row : ∀ g < depth keep, HasRow p d g → e.find (generation p (g + 1)) = d.find (generation p g)

theorem HasRow.mono {r g : Nat} (h : HasRow p d r) (hg : g ≤ r) : HasRow p d g :=
  fun j hj => h j (Nat.le_trans hj hg)

theorem hasRow_zero (h : d.find p = .ok (some (.file id))) : HasRow p d 0 := by
  intro g hg
  obtain rfl : g = 0 := by omega
  exact ⟨id, h⟩

theorem KeepsRow.refl (p : Location) (keep : Int) (d : Disk) : KeepsRow p keep d d :=
  ⟨Nat.le_refl _, fun _ _ _ => rfl⟩

theorem KeepsRow.trans {f : Disk} (hde : KeepsRow p keep d e) (hef : KeepsRow p keep e f) :
    KeepsRow p keep d f := by
  constructor
  · exact Nat.le_trans hde.numbers hef.numbers
  · intro g hg hrow
    have hrow' : HasRow p e g := by
      intro j hj
      rw [hde.row j (by omega) (hrow.mono hj)]
      exact hrow j hj
    rw [hef.row g hg hrow', hde.row g hg hrow]

theorem keepsRow_of_keepsNodes (h : d.KeepsNodes e) : KeepsRow p keep d e := by
  constructor
  · exact h.numbers
  · intro g _ hrow
    obtain ⟨id, hid⟩ := hrow g (Nat.le_refl g)
    rw [h.find hid, hid]

section

variable (hd : d.IsSound) (hf : d.find p = .ok (some (.file id)))
include hd hf

theorem openFile_rotated (h : rotate p keep d = (e, none)) :
    e.openFile p = .ok (e.create p.place) := by
  have hp := isName_of_find hd hf
  obtain ⟨hloc, hfile⟩ := Disk.locate_of_find_some hf
  have hl := (Disk.reaches_of_locate hp hloc).2
  have hu := Disk.unusable?_of_locate hloc
  obtain ⟨n, hn⟩ := exists_depth_eq keep
  rw [rotate_depth, hn] at h
  have hlog : e.at? p.place = none := (at?_rotate hp hu n (stays_of_find hp hd hf) h).1
  have hloc' := Disk.locate_of_reaches hp hu (reaches_rotate hp n hd hfile h)
  rw [hl, if_neg Bool.false_ne_true] at hloc'
  simp only [Disk.openFile, hloc', bind, Except.bind, hlog]
  rfl

variable (hdirect : p.IsDirectTo (depth keep))
include hdirect

theorem keepsRow_rotate {cause : Refusal} (h : rotate p keep d = (e, some cause)) :
    KeepsRow p keep d e := by
  have hp := isName_of_find hd hf
  have hloc := (Disk.locate_of_find_some hf).1
  have hl := (Disk.reaches_of_locate hp hloc).2
  have hleads := LeadsTo.of_find hd hf
  have he := (hleads.rotate hp hdirect).reaches
  have hnumbers := contents_rotate p keep d
  rw [h] at he hnumbers
  constructor
  · exact Nat.le_of_eq (congrArg List.length hnumbers).symm
  · intro g _ hrow
    obtain ⟨n, hn⟩ := exists_depth_eq keep
    rw [rotate_depth, hn] at h
    apply find_generation_congr hp hleads.reaches he
    apply at?_rotate_refused hp (Disk.unusable?_of_locate hloc) hl n (stays_of_find hp hd hf) _ h g
      (Nat.le_refl g)
    intro j hj
    obtain ⟨file, hfile⟩ := hrow j hj
    exact ⟨file, (Disk.locate_of_find_some hfile).2⟩

theorem shiftsRow_rotate (h : rotate p keep d = (e, none)) :
    ShiftsRow p keep d (e.create p.place).1 := by
  have hp := isName_of_find hd hf
  have hopen := openFile_rotated hd hf h
  have hlog : (e.create p.place).1.find p = .ok (some (.file e.contents.length)) :=
    Disk.find_of_openFile hopen
  have hnumbers := congrArg List.length (contents_rotate p keep d)
  rw [h] at hnumbers
  constructor
  · rw [Disk.create, List.length_append, hnumbers]
    exact Nat.le_add_right _ _
  · rw [hlog, hnumbers]
  · intro g hg hrow
    obtain ⟨file, hfile⟩ := hrow g (Nat.le_refl g)
    obtain ⟨n, hn⟩ := exists_depth_eq keep
    rw [rotate_depth, hn] at h
    have hother : (e.create p.place).1.find (generation p (g + 1)) = e.find (generation p (g + 1)) :=
      find_openFile hp hopen g
    rw [hother, hfile]
    exact find_rotate_next hp hdirect n (by omega) (LeadsTo.of_find hd hf) h (by omega) hfile

end

def Drifts (p : Location) (keep : Int) (d e : Disk) : Prop :=
  KeepsRow p keep d e ∨ ShiftsRow p keep d e

theorem Drifts.append (h : Drifts p keep d e) (id : FileId) (octets : List UInt8) :
    Drifts p keep d (e.append id octets) := by
  rcases h with h | h
  · exact .inl (h.trans (keepsRow_of_keepsNodes (e.keepsNodes_append id octets)))
  · have hfind (q : Location) := e.find_append (p := q) id octets
    refine .inr ⟨?_, (hfind p).trans h.log, fun g hg hrow => (hfind _).trans (h.row g hg hrow)⟩
    exact Nat.le_trans h.numbers (Nat.le_of_eq (List.length_modify ..).symm)

theorem Drifts.hasRow (h : Drifts p keep d e) (hfile : HasRow p d 0) : HasRow p e 0 := by
  rcases h with h | h
  · obtain ⟨id, hid⟩ := hfile 0 (Nat.le_refl 0)
    exact hasRow_zero ((h.row 0 (Nat.zero_le _) hfile).trans hid)
  · exact hasRow_zero h.log

def IsFresh (p : Location) (d : Disk) (sink : Option Sink) : Prop :=
  sink = none ∨ sink = some .lost ∨ ∃ id, sink = some (.file id) ∧ d.at? p.place = some (.file id)

theorem IsFresh.at? {sink : Option Sink} (h : IsFresh p d sink) (hid : sink = some (.file id)) :
    d.at? p.place = some (.file id) := by
  rcases h with hn | hn | ⟨new, hn, hplace⟩
  · rw [hid] at hn
    cases hn
  · rw [hid] at hn
    cases hn
  · rw [hid] at hn
    cases hn
    exact hplace

theorem IsFresh.of_at? {sink : Option Sink} (h : IsFresh p d sink)
    (hplace : e.at? p.place = d.at? p.place) : IsFresh p e sink := by
  rwa [IsFresh, hplace]

variable {l l' : Logger} {w w' : World} {level : Level} {message : Value}
  {context : List (Value × Value)} {failure : Option LogError}

section

variable (hp : IsName p.fileName) (hpath : l.path = some p)
include hp hpath

theorem makeRoom_sink (hd : d.IsSound) (h : l.makeRoom d = (e, l', failure)) :
    e = d ∧ l'.sink = l.sink ∨ IsFresh p e l'.sink := by
  rcases Logger.makeRoom_cases h with ⟨rfl, rfl | ⟨_, rfl⟩⟩ | ⟨q, keep, _, hq, _, _, h⟩
  · exact .inl ⟨rfl, rfl⟩
  · exact .inr (.inr (.inl rfl))
  obtain rfl : p = q := Option.some.inj (hpath.symm.trans hq)
  rcases h with ⟨id, ho, rfl⟩ | ⟨_, _, _, rfl⟩
  · have hs := isSound_rotate hp hd keep
    exact .inr (.inr (.inr ⟨id, rfl, (Disk.openFile_spec hs ho).2.1⟩))
  · exact .inr (.inr (.inl rfl))

theorem log_sink (hd : w.disk.IsSound) (h : l.log level message context w = (w', l', failure)) :
    w'.disk.at? p.place = w.disk.at? p.place ∧ l'.sink = l.sink ∨ IsFresh p w'.disk l'.sink := by
  rcases Logger.log_cases h with ⟨hw, rfl⟩ | ⟨d, room, hm, hw⟩
  · rw [hw]
    exact .inl ⟨rfl, rfl⟩
  have hplace : w'.disk.at? p.place = d.at? p.place := by
    rcases hw with hw | ⟨id, octets, _, hw⟩ <;> rw [hw]
    rfl
  rcases makeRoom_sink hp hpath hd hm with ⟨rfl, hsame⟩ | hfresh
  · exact .inl ⟨hplace, hsame⟩
  · exact .inr (hfresh.of_at? hplace)

end

section

variable (hpath : l.path = some p) (hkeep : l.keep.integer? = some keep)
  (hdirect : p.IsDirectTo (depth keep))
include hpath hkeep hdirect

theorem makeRoom_drifts (hd : d.IsSound) (hfile : HasRow p d 0)
    (h : l.makeRoom d = (e, l', failure)) : Drifts p keep d e := by
  rcases Logger.makeRoom_cases h with ⟨rfl, _⟩ | ⟨q, n, _, hq, hn, _, h⟩
  · exact .inl (.refl p keep e)
  obtain rfl : p = q := Option.some.inj (hpath.symm.trans hq)
  obtain rfl : keep = n := Option.some.inj (hkeep.symm.trans hn)
  obtain ⟨file, hf⟩ : ∃ file, d.find p = .ok (some (.file file)) := hfile 0 (Nat.le_refl 0)
  cases hrotated : rotate p keep d with
  | mk rotated refusal =>
    rw [hrotated] at h
    cases refusal with
    | none =>
      dsimp only at h
      rw [openFile_rotated hd hf hrotated] at h
      rcases h with ⟨id, ho, _⟩ | ⟨cause, ho, _⟩
      · obtain ⟨rfl, _⟩ := Prod.mk.inj (Except.ok.inj ho)
        exact .inr (shiftsRow_rotate hd hf hdirect hrotated)
      · cases ho
    | some cause =>
      have hkept := keepsRow_rotate hd hf hdirect hrotated
      rcases h with ⟨id, ho, _⟩ | ⟨_, _, rfl, _⟩
      · exact .inl (hkept.trans (keepsRow_of_keepsNodes (Disk.keepsNodes_openFile ho)))
      · exact .inl hkept

theorem log_drifts (hd : w.disk.IsSound) (hfile : HasRow p w.disk 0)
    (h : l.log level message context w = (w', l', failure)) : Drifts p keep w.disk w'.disk := by
  rcases Logger.log_cases h with ⟨hw, _⟩ | ⟨d, room, hm, hw | ⟨id, octets, _, hw⟩⟩
  · rw [hw]
    exact .inl (.refl p keep w.disk)
  · rw [hw]
    exact makeRoom_drifts hpath hkeep hdirect hd hfile hm
  · rw [hw]
    exact (makeRoom_drifts hpath hkeep hdirect hd hfile hm).append id octets

end

end Rotation

end DriveBridge
