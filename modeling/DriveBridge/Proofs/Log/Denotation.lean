import DriveBridge.Proofs.Log.Shift

namespace DriveBridge

open Location Rotation

variable {p q : Location} {d e : Disk} {id : FileId}

namespace Disk

def read (d : Disk) (p : Location) : List UInt8 :=
  match d.find p with
  | .ok (some (.file id)) => d.content id
  | _ => []

theorem read_of_find (h : d.find p = .ok (some (.file id))) : d.read p = d.content id := by
  rw [read, h]

theorem read_of_no_file (h : ∀ id, d.find p ≠ .ok (some (.file id))) : d.read p = [] := by
  rw [read]
  split
  · exact absurd (by assumption) (h _)
  · rfl

theorem read_congr (hf : ∀ id, e.find q = .ok (some (.file id)) ↔ d.find p = .ok (some (.file id)))
    (hc : ∀ id, d.find p = .ok (some (.file id)) → e.content id = d.content id) :
    e.read q = d.read p := by
  by_cases h : ∃ id, d.find p = .ok (some (.file id))
  · obtain ⟨id, hid⟩ := h
    rw [read_of_find hid, read_of_find ((hf id).mpr hid), hc id hid]
  · rw [read_of_no_file fun id hid => h ⟨id, hid⟩,
      read_of_no_file fun id hid => h ⟨id, (hf id).mp hid⟩]

theorem locate_congr_of_reaches (hp : IsName p.fileName) (hd : d.Reaches p) (he : e.Reaches p) :
    e.locate p = d.locate p := by
  cases hu : unusable? p.text with
  | some cause => rw [locate, locate, walk, walk, hu]
  | none => rw [locate_of_reaches hp hu hd, locate_of_reaches hp hu he]

theorem find_congr_of_reaches (hp : IsName p.fileName) (hd : d.Reaches p) (he : e.Reaches p)
    (h : e.at? p.place = d.at? p.place) : e.find p = d.find p := by
  unfold find
  rw [locate_congr_of_reaches hp hd he]
  split
  · rename_i place hloc
    rw [locate_eq_place hloc, h]
  · rfl
  · rfl

/-- Whatever lies at the end of a path is found by it. A path that goes upward can have a missing
directory on its way to something that is there. -/
def Exposes (d : Disk) (p : Location) : Prop := upward ∉ p.names ∨ d.Reaches p

theorem reaches_of_at? (hd : d.IsSound) (hp : IsName p.fileName) (hx : d.Exposes p)
    (he : e.Reaches p) (h : (d.at? p.place).isSome) : d.Reaches p := by
  rcases hx with hdown | hr
  · have hn := isName_fileName_ne_nil hp
    apply reaches_of_way he hn
    intro n hway
    have hbelow : Place.along [] (p.names.take n) <+: p.home := prefix_home hdown hway
    rw [place_eq_home hp] at h
    apply hd.at?_of_prefix (hbelow.trans (List.prefix_append _ _)) _ h
    intro hsame
    have hlength := hbelow.length_le
    rw [hsame, List.length_append, List.length_singleton] at hlength
    omega
  · exact hr

theorem IsExtendedBy.reaches (h : d.IsExtendedBy e) (hr : d.Reaches p) : e.Reaches p := by
  constructor
  · exact follow_of_along hr.1 fun n hn => h.at?_of_some (at?_along_of_follow hr.1 hn)
  · exact h.at?_of_some hr.2

theorem IsExtendedBy.exposes (h : d.IsExtendedBy e) (hx : d.Exposes p) : e.Exposes p :=
  hx.imp_right h.reaches

theorem IsExtendedBy.find_file (h : d.IsExtendedBy e) (hd : d.IsSound) (he : e.IsSound)
    (hx : d.Exposes p) : e.find p = .ok (some (.file id)) ↔ d.find p = .ok (some (.file id)) := by
  constructor
  · intro hf
    have hp := isName_of_find he hf
    have ha := (locate_of_find_some hf).2
    have hsame : d.at? p.place = e.at? p.place := by
      rcases h.entries p.place with hsame | ⟨_, hdir⟩
      · exact hsame.symm
      · rw [hdir] at ha
        cases ha
    have hr := reaches_of_find hp hf
    have hr' := reaches_of_at? hd hp hx hr (by rw [hsame, ha]; rfl)
    rw [find_congr_of_reaches hp hr hr' hsame, hf]
  · intro hf
    have hp := isName_of_find hd hf
    have ha := (locate_of_find_some hf).2
    have hsame : e.at? p.place = d.at? p.place := by rw [ha, h.at?_of_some ha]
    have hr := reaches_of_find hp hf
    rw [find_congr_of_reaches hp hr (h.reaches hr) hsame, hf]

theorem IsExtendedBy.read (h : d.IsExtendedBy e) (hd : d.IsSound) (he : e.IsSound)
    (hx : d.Exposes p) : e.read p = d.read p := by
  apply read_congr
  · exact fun id => h.find_file hd he hx
  · intro id _
    rw [content, content, h.contents]

theorem read_append (hd : d.IsSound) (h : d.find p = .ok (some (.file id)))
    (octets : List UInt8) (q : Location) : (d.append id octets).read q =
      if d.find q = .ok (some (.file id)) then d.read q ++ octets else d.read q := by
  have hcontent := content_append d id octets (hd.held (locate_of_find_some h).2)
  split
  · rename_i hq
    rw [read_of_find hq, read_of_find (by rw [find_append, hq]), hcontent, if_pos rfl]
  · rename_i hq
    apply read_congr
    · intro file
      rw [find_append]
    · intro file hfile
      rw [hcontent, if_neg]
      rintro rfl
      exact hq hfile

end Disk

namespace Rotation

theorem isName_generation (hp : IsName p.fileName) (i : Nat) :
    IsName (generation p i).fileName := by
  cases i with
  | zero => exact hp
  | succ i => exact isName_numbered p (i + 1)

theorem reaches_generation (i : Nat) : d.Reaches (generation p i) ↔ d.Reaches p := by
  cases i with
  | zero => rfl
  | succ i => exact reaches_numbered (i + 1)

theorem exposes_generation (hx : d.Exposes p) (i : Nat) : d.Exposes (generation p i) := by
  refine hx.imp ?_ (reaches_generation i).mpr
  intro hdown
  cases i with
  | zero => exact hdown
  | succ i =>
    rw [generation, names_numbered, List.mem_append, List.mem_singleton, not_or]
    constructor
    · exact fun hu => hdown (List.dropLast_subset _ hu)
    · exact Ne.symm (isName_numberedName p.fileName (i + 1)).2

theorem find_generation_congr (hp : IsName p.fileName) (hd : d.Reaches p) (he : e.Reaches p)
    {i : Nat} (h : e.at? (generation p i).place = d.at? (generation p i).place) :
    e.find (generation p i) = d.find (generation p i) :=
  Disk.find_congr_of_reaches (isName_generation hp i) ((reaches_generation i).mpr hd)
    ((reaches_generation i).mpr he) h

theorem find_generation_injective (hp : IsName p.fileName) (hd : d.IsSound) {i j : Nat}
    (hi : d.find (generation p i) = .ok (some (.file id)))
    (hj : d.find (generation p j) = .ok (some (.file id))) : i = j := by
  have ha := (Disk.locate_of_find_some hi).2
  have hb := (Disk.locate_of_find_some hj).2
  exact generation_injective hp (hd.single ha hb)

theorem find_of_nameable (hd : d.IsSound) (hf : d.find p = .ok (some (.file id))) {i k : Nat}
    (hfits : IsNameable p k) (hi : i ≤ k) :
    d.find (generation p i) = .ok (d.at? (generation p i).place) := by
  have hp := isName_of_find hd hf
  obtain ⟨hloc, ha⟩ := Disk.locate_of_find_some hf
  cases i with
  | zero => exact Disk.find_of_locate hloc
  | succ i =>
    have hfits := hfits.mono hp (Disk.unusable?_of_locate hloc) hi
    exact Disk.find_of_locate (hfits.locate (Disk.reaches_of_find hp hf))

theorem not_found_of_misses (hp : IsName p.fileName) (hu : Disk.unusable? p.text = none)
    (hm : d.Misses p) (i : Nat) (node : Node) : d.find (generation p i) ≠ .ok (some node) := by
  intro hf
  cases i with
  | zero => cases (Disk.locate_of_misses hp hu hm).symm.trans (Disk.locate_of_find_some hf).1
  | succ i => rcases find_of_misses hp hu hm (i + 1) with h | h <;> cases h.symm.trans hf

section

variable {i k : Nat} (hp : IsName p.fileName) (hdirect : p.IsDirectTo k) (hi : i < k)
  (hd : LeadsTo p d) (h : d.rename (generation p i) (generation p (i + 1)) = .ok e)
include hp hdirect hi hd h

theorem find_rename (j : Nat) : e.find (generation p j) =
    if j = i + 1 then d.find (generation p i)
    else if j = i then .ok none
    else d.find (generation p j) := by
  have he := (hd.rename hp hdirect hi h).reaches
  obtain ⟨hc, rfl⟩ := rename_generation hp h
  have hloc (j : Nat) := Disk.locate_congr_of_reaches (isName_generation hp j)
    ((reaches_generation j).mpr hd.reaches) ((reaches_generation j).mpr he)
  have ha := at?_move hp d i j
  split at ha
  · rename_i hj
    subst hj
    rw [if_pos rfl, Disk.find_of_locate ((hloc (i + 1)).trans hc.target), ha,
      Disk.find_of_locate hc.source]
  rename_i hj
  rw [if_neg hj]
  split at ha
  · rename_i hj
    subst hj
    rw [if_pos rfl, Disk.find_of_locate ((hloc j).trans hc.source), ha]
  · rename_i hj
    rw [if_neg hj]
    exact find_generation_congr hp hd.reaches he ha

theorem read_rename (j : Nat) : e.read (generation p j) =
    if j = i + 1 then d.read (generation p i)
    else if j = i then []
    else d.read (generation p j) := by
  have hfind := find_rename hp hdirect hi hd h j
  have hsame {q : Location} (hf : e.find (generation p j) = d.find q) :
      e.read (generation p j) = d.read q := by
    apply Disk.read_congr
    · intro id
      rw [hf]
    · intro id _
      obtain ⟨_, rfl⟩ := rename_generation hp h
      exact Disk.content_move d id _ _
  split at hfind
  · rename_i hj
    rw [if_pos hj, hsame hfind]
  rename_i hj
  rw [if_neg hj]
  split at hfind
  · rename_i hj
    rw [if_pos hj]
    apply Disk.read_of_no_file
    intro id
    rw [hfind]
    simp
  · rename_i hj
    rw [if_neg hj, hsame hfind]

end

section

variable {k : Nat} (hp : IsName p.fileName) (hdirect : p.IsDirectTo k)
include hp hdirect

theorem find_rotate_beyond (n : Nat) (hn : n < k) (hd : LeadsTo p d) {j : Nat} (hj : n + 1 < j) :
    (rotate p (n + 1 : Nat) d).1.find (generation p j) = d.find (generation p j) := by
  have hmoved {d e : Disk} {i : Nat} (hi : i ≤ n) (hd : LeadsTo p d)
      (h : d.rename (generation p i) (generation p (i + 1)) = .ok e) :
      e.find (generation p j) = d.find (generation p j) := by
    rw [find_rename hp hdirect (by omega) hd h, if_neg (by omega), if_neg (by omega)]
  clear hj
  induction n generalizing d with
  | zero =>
    rw [rotate_one]
    split
    · rfl
    · exact hmoved (Nat.le_refl _) hd (by assumption)
  | succ n ih =>
    have hrest {d : Disk} (hd : LeadsTo p d) :
        (rotate p (n + 1 : Nat) d).1.find (generation p j) = d.find (generation p j) :=
      ih (by omega) hd fun hi => hmoved (Nat.le_succ_of_le hi)
    rw [rotate_succ]
    split
    · rfl
    · exact hrest hd
    split
    · rfl
    · rename_i hren
      rw [hrest (hd.rename hp hdirect hn hren)]
      exact hmoved (Nat.le_refl _) hd hren

theorem find_rotate_next (n : Nat) (hn : n < k) (hd : LeadsTo p d)
    (h : rotate p (n + 1 : Nat) d = (e, none)) {j : Nat} (hj : j ≤ n) {node : Node}
    (hf : d.find (generation p j) = .ok (some node)) :
    e.find (generation p (j + 1)) = .ok (some node) := by
  induction n generalizing d with
  | zero =>
    rw [rotate_one] at h
    split at h
    · cases h
    · rename_i hren
      obtain ⟨rfl, _⟩ := h
      obtain rfl : j = 0 := by omega
      rw [find_rename hp hdirect hn hd hren, if_pos rfl, hf]
  | succ n ih =>
    rw [rotate_succ] at h
    split at h
    · cases h
    · rename_i hnone
      have hne : j ≠ n + 1 := by
        rintro rfl
        cases hf.symm.trans hnone
      exact ih (by omega) hd h (by omega) hf
    split at h
    · cases h
    rename_i moved hren
    have hmoved := find_rename hp hdirect hn hd hren
    have hd' := hd.rename hp hdirect hn hren
    by_cases hlast : j = n + 1
    · subst hlast
      have hbeyond := find_rotate_beyond hp hdirect n (by omega) hd' (j := n + 1 + 1) (by omega)
      rw [h] at hbeyond
      rw [hbeyond, hmoved, if_pos rfl, hf]
    · apply ih (by omega) hd' h (by omega)
      rw [hmoved, if_neg (by omega), if_neg hlast, hf]

end

theorem find_openFile (hp : IsName p.fileName) (h : d.openFile p = .ok (e, id)) (i : Nat) :
    e.find (generation p (i + 1)) = d.find (generation p (i + 1)) := by
  have he := Disk.reaches_of_find hp (Disk.find_of_openFile h)
  obtain ⟨hloc, ⟨_, rfl⟩ | ⟨hn, rfl, _⟩⟩ := Disk.openFile_eq_ok h
  · rfl
  · apply find_generation_congr hp (Disk.reaches_of_locate hp hloc).1 he
    rw [Disk.at?_create (Disk.isEnclosing_of_absent hn), if_neg]
    exact fun hsame => Nat.succ_ne_zero i (generation_injective (j := 0) hp hsame)

theorem read_openFile (hp : IsName p.fileName) (h : d.openFile p = .ok (e, id)) (i : Nat) :
    e.read (generation p i) = d.read (generation p i) := by
  cases i with
  | zero =>
    have hfound := Disk.find_of_openFile h
    obtain ⟨hloc, ⟨_, rfl⟩ | ⟨hn, rfl, rfl⟩⟩ := Disk.openFile_eq_ok h
    · rfl
    · rw [generation, Disk.read_of_find hfound, Disk.content_create, Disk.content_next,
        Disk.read_of_no_file]
      intro file
      rw [Disk.find_of_locate hloc, hn]
      simp
  | succ i =>
    apply Disk.read_congr
    · intro file
      rw [find_openFile hp h]
    · intro file _
      exact Disk.content_openFile h file

end Rotation

namespace Hidden

def path : Location := ⟨.relative, ["build", "..", "logs", "x.jsonl"]⟩

def line : Text := List.replicate 20 0x61

def disk : Disk :=
  let logs : Place := [SystemName.encode "logs"]
  ((Disk.empty.add logs .directory).create (logs ++ [SystemName.encode "x.jsonl"])).1.append 0
    (Utf8.encode (line ++ [CodePoint.newline] ++ line ++ [CodePoint.newline]))

theorem isSound_disk : disk.IsSound := by
  apply Disk.IsSound.append
  apply Disk.IsSound.create _ rfl rfl rfl
  exact Disk.isSound_empty.addDirectory rfl rfl rfl

theorem not_found (i : Nat) (node : Node) : disk.find (generation path i) ≠ .ok (some node) :=
  not_found_of_misses ⟨rfl, by decide⟩ rfl (.inl rfl) i node

end Hidden

end DriveBridge
