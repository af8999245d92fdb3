import DriveBridge.Proofs.Log.Calls
import DriveBridge.Proofs.Log.Generations

/-!
A rotation that is refused. Once a rename is done the next one finds its name free, so only the
first can be refused, and then the disk is as it was. The log call goes on as without a rotation.
-/

namespace DriveBridge

open Location Rotation

variable {p q : Location} {d e : Disk}

namespace Disk

def Reaches (d : Disk) (p : Location) : Prop :=
  d.follow [] p.names.dropLast = .ok p.home ∧ d.at? p.home = some .directory

def Misses (d : Disk) (p : Location) : Prop :=
  d.follow [] p.names.dropLast = .error .missing ∨
    d.follow [] p.names.dropLast = .ok p.home ∧ d.at? p.home = none

theorem locate_eq_follow (hq : IsName q.fileName) (hu : unusable? q.text = none) :
    d.locate q = (d.follow [] q.names.dropLast).bind (d.follow · [q.fileName]) := by
  rw [locate, walk, hu]
  dsimp only
  rw [← follow_append, dropLast_append_fileName (isName_fileName_ne_nil hq)]

theorem reaches_of_locate {place : Place} (hq : IsName q.fileName)
    (h : d.locate q = .ok place) : d.Reaches q ∧ isTooLong q.fileName = false := by
  rw [locate_eq_follow hq (unusable?_of_locate h)] at h
  obtain ⟨here, hf, h⟩ := bind_eq_ok h
  have hdir := at?_of_follow_cons h
  obtain rfl : here = q.home := follow_eq_along hf
  constructor
  · exact ⟨hf, hdir⟩
  · rw [follow_name hq hdir] at h
    split at h
    · cases h
    · exact Bool.eq_false_iff.mpr (by assumption)

theorem reaches_of_find (hq : IsName q.fileName) {node : Node} (h : d.find q = .ok (some node)) :
    d.Reaches q := (reaches_of_locate hq (locate_of_find_some h).1).1

theorem locate_of_reaches (hq : IsName q.fileName) (hu : unusable? q.text = none)
    (h : d.Reaches q) : d.locate q =
      if isTooLong q.fileName then .error .nameTooLong else .ok q.place := by
  rw [locate_eq_follow hq hu, h.1, place_eq_home hq]
  exact follow_name hq h.2

theorem locate_of_misses (hq : IsName q.fileName) (hu : unusable? q.text = none)
    (h : d.Misses q) : d.locate q = .error .missing := by
  rw [locate_eq_follow hq hu]
  rcases h with h | ⟨h, hn⟩
  · rw [h]
    rfl
  · rw [h]
    change d.follow q.home [q.fileName] = _
    rw [follow, hn]

theorem follow_of_fewer {here place : Place} {names : List Text}
    (hx : ∀ place, d.at? place = some .directory →
      e.at? place = some .directory ∨ e.at? place = none)
    (h : d.follow here names = .ok place) :
    e.follow here names = .ok place ∨ e.follow here names = .error .missing := by
  induction names generalizing here with
  | nil => exact .inl h
  | cons name names ih =>
    have hdir := at?_of_follow_cons h
    rcases hx here hdir with he | he
    · simp only [follow, hdir] at h
      simp only [follow, he]
      split at h
      · rw [if_pos (by assumption)]
        exact ih h
      rw [if_neg (by assumption)]
      split at h
      · rw [if_pos (by assumption)]
        exact ih h
      rw [if_neg (by assumption)]
      split at h
      · cases h
      rw [if_neg (by assumption)]
      exact ih h
    · right
      rw [follow, he]

theorem reaches_or_misses_of_fewer
    (hx : ∀ place, d.at? place = some .directory →
      e.at? place = some .directory ∨ e.at? place = none)
    (h : d.Reaches p) : e.Reaches p ∨ e.Misses p := by
  rcases follow_of_fewer hx h.1 with hf | hf
  · rcases hx _ h.2 with hh | hh
    · exact .inl ⟨hf, hh⟩
    · exact .inr (.inr ⟨hf, hh⟩)
  · exact .inr (.inl hf)

end Disk

namespace Rotation

theorem reaches_numbered (i : Nat) : d.Reaches (numbered p i) ↔ d.Reaches p := by
  rw [Disk.Reaches, home_numbered, names_numbered, List.dropLast_concat]
  rfl

theorem misses_numbered (i : Nat) : d.Misses (numbered p i) ↔ d.Misses p := by
  rw [Disk.Misses, home_numbered, names_numbered, List.dropLast_concat]
  rfl

theorem move_fewer (hp : IsName p.fileName) {i : Nat}
    (hc : d.CanRename (generation p i) (generation p (i + 1))) {place : Place}
    (h : d.at? place = some .directory) :
    (d.move (generation p i).place (generation p (i + 1)).place).at? place = some .directory ∨
      (d.move (generation p i).place (generation p (i + 1)).place).at? place = none := by
  have hn := isEnclosing_generation hp (i + 1)
  by_cases ht : place = (generation p (i + 1)).place
  · rw [ht, at?_move hp, if_pos rfl]
    exact .inl (hc.fits (ht ▸ h))
  have htp : ¬ (generation p (i + 1)).place <+: place := by
    intro hpre
    have he : place.isEnclosing = false := by
      rw [Bool.eq_false_iff]
      intro he
      rw [Place.isEnclosing_of_prefix hpre he] at hn
      cases hn
    exact Disk.not_prefix_of_isVacant hc.vacant (by rw [h]; rfl) he ht hpre
  rw [Disk.at?_move _ _ _ _ (isEnclosing_generation hp i) hn hc.apart
    (by rw [generation_isPrefix_iff hp]; omega), if_neg htp]
  split
  · exact .inr rfl
  · exact .inl h

structure Stays (p : Location) (d : Disk) : Prop where
  sound : d.IsSound
  way : d.Reaches p ∨ d.Misses p
  present : (d.at? p.place).isSome

theorem stays_of_find {node : Node} (hp : IsName p.fileName) (hd : d.IsSound)
    (hf : d.find p = .ok (some node)) : Stays p d := by
  constructor
  · exact hd
  · exact .inl (Disk.reaches_of_find hp hf)
  · rw [(Disk.locate_of_find_some hf).2]
    rfl

theorem stays_of_rename (hp : IsName p.fileName) {i : Nat} (hd : Stays p d)
    (h : d.rename (generation p (i + 1)) (generation p (i + 2)) = .ok e) :
    Stays p e ∧ e.find (generation p (i + 1)) = .ok none := by
  have hsound := isSound_rename_generation hp hd.sound h
  obtain ⟨hc, rfl⟩ := rename_generation hp h
  have hq : IsName (generation p (i + 1)).fileName := isName_numbered p (i + 1)
  obtain ⟨hr, hl⟩ := Disk.reaches_of_locate hq hc.source
  have hu' := Disk.unusable?_of_locate hc.source
  have hway := Disk.reaches_or_misses_of_fewer (fun _ => move_fewer hp hc) hr
  have hpresent := at?_move hp d (i + 1) 0
  rw [if_neg (by omega), if_neg (by omega)] at hpresent
  constructor
  · constructor
    · exact hsound
    · exact hway.imp (reaches_numbered (i + 1)).mp (misses_numbered (i + 1)).mp
    · rw [← hd.present]
      exact congrArg Option.isSome hpresent
  · rcases hway with hr' | hm
    · have hloc := Disk.locate_of_reaches hq hu' hr'
      rw [hl, if_neg Bool.false_ne_true] at hloc
      rw [Disk.find_of_locate hloc, at?_move hp, if_neg (by omega), if_pos rfl]
    · rw [Disk.find, Disk.locate_of_misses hq hu' hm]

theorem find_of_unusable (h : Disk.unusable? q.text = some .nameTooLong) :
    d.find q = .error .nameTooLong := by
  rw [Disk.find, Disk.locate, Disk.walk, h]

section

variable (hp : IsName p.fileName) (hu : Disk.unusable? p.text = none)
include hp hu

theorem unusable?_of_find_none {i : Nat} (h : d.find (numbered p i) = .ok none) :
    Disk.unusable? (numbered p i).text = none := by
  have hc := unusable?_numbered hp hu i
  split at hc
  · rw [find_of_unusable hc] at h
    cases h
  · exact hc

theorem unusable?_mono {i j : Nat} (hij : i ≤ j)
    (h : Disk.unusable? (numbered p j).text = none) :
    Disk.unusable? (numbered p i).text = none := by
  have hlen := length_text_numbered_mono hp hij
  rw [unusable?_numbered hp hu] at h ⊢
  split at h
  · cases h
  · rw [if_neg (by omega)]

theorem locate_of_find_none {i : Nat} (h : d.find (numbered p i) = .ok none)
    (hr : d.Reaches p) : d.locate (numbered p i) = .ok (numbered p i).place ∧
      d.at? (numbered p i).place = none := by
  have hloc := Disk.locate_of_reaches (isName_numbered p i) (unusable?_of_find_none hp hu h)
    ((reaches_numbered i).mpr hr)
  split at hloc
  · rw [Disk.find, hloc] at h
    cases h
  · rw [Disk.find_of_locate hloc] at h
    exact ⟨hloc, Except.ok.inj h⟩

theorem find_ne_error {i : Nat} {cause : Refusal} (hd : Stays p d)
    (h : d.find (numbered p (i + 1)) = .ok none) : d.find (numbered p i) ≠ .error cause := by
  intro hf
  have hloc := Disk.find_eq_error hf
  have hu' := unusable?_mono hp hu (Nat.le_succ i) (unusable?_of_find_none hp hu h)
  rcases hd.way with hr | hm
  · obtain ⟨hl, _⟩ := locate_of_find_none hp hu h hr
    have hlen := length_numberedName_mono p.fileName (show i ≤ i + 1 by omega)
    have hlong := (Disk.reaches_of_locate (isName_numbered p (i + 1)) hl).2
    rw [fileName_numbered, Disk.isTooLong, decide_eq_false_iff_not] at hlong
    rw [Disk.locate_of_reaches (isName_numbered p i) hu' ((reaches_numbered i).mpr hr), if_neg]
      at hloc
    · cases hloc
    · rw [fileName_numbered, Disk.isTooLong, decide_eq_true_eq]
      omega
  · rw [Disk.locate_of_misses (isName_numbered p i) hu' ((misses_numbered i).mpr hm)] at hloc
    cases hloc

theorem rename_of_free {i : Nat} (hd : d.IsSound) (hr : d.Reaches p)
    (hs : d.locate (generation p i) = .ok (generation p i).place)
    (ha : (d.at? (generation p i).place).isSome)
    (h : d.find (generation p (i + 1)) = .ok none) :
    d.rename (generation p i) (generation p (i + 1)) =
      .ok (d.move (generation p i).place (generation p (i + 1)).place) := by
  obtain ⟨hn, ht⟩ := locate_of_find_none hp hu h hr
  exact Disk.rename_of_absent hd hs hn ha (by rw [generation_isPrefix_iff hp]; omega) ht

theorem rotate_of_free (hl : Disk.isTooLong p.fileName = false) (n : Nat) (hd : Stays p d)
    (h : d.find (generation p (n + 1)) = .ok none) :
    (rotate p (n + 1 : Nat) d).2 = none ∨ (rotate p (n + 1 : Nat) d).2 = some .missing := by
  induction n generalizing d with
  | zero =>
    rw [rotate_one]
    rcases hd.way with hr | hm
    · have hloc := Disk.locate_of_reaches hp hu hr
      rw [hl, if_neg Bool.false_ne_true] at hloc
      rw [rename_of_free (i := 0) hp hu hd.sound hr hloc hd.present h]
      exact .inl rfl
    · rw [Disk.rename, generation, Disk.locate_of_misses hp hu hm]
      exact .inr rfl
  | succ n ih =>
    rw [rotate_succ]
    split
    · rename_i hf
      exact absurd hf (find_ne_error hp hu hd h)
    · exact ih hd (by assumption)
    · rename_i node hf
      obtain ⟨hloc, ha⟩ := Disk.locate_of_find_some hf
      have hr := (reaches_numbered _).mp
        (Disk.reaches_of_locate (isName_numbered p (n + 1)) hloc).1
      have hren := rename_of_free (i := n + 1) hp hu hd.sound hr hloc (by rw [ha]; rfl) h
      -- The name that was moved away from is the free one of what is left to do.
      obtain ⟨hd', hfree⟩ := stays_of_rename hp hd hren
      rw [hren]
      exact ih hd' hfree

/-- A refused rotation leaves the disk as it was, unless the log file cannot be reached any more. -/
theorem rotate_refused (hl : Disk.isTooLong p.fileName = false) (hd : Stays p d) {keep : Int}
    {cause : Refusal} (h : rotate p keep d = (e, some cause)) (hc : cause ≠ .missing) : e = d := by
  rw [rotate_depth] at h
  obtain ⟨n, hn⟩ := exists_depth_eq keep
  rw [hn] at h
  clear hn
  -- Up to the first rename that is made, the disk does not change at all.
  induction n with
  | zero =>
    rw [rotate_one] at h
    split at h
    · exact (Prod.mk.inj h).1.symm
    · cases h
  | succ n ih =>
    rw [rotate_succ] at h
    split at h
    · exact (Prod.mk.inj h).1.symm
    · exact ih h
    split at h
    · exact (Prod.mk.inj h).1.symm
    · obtain ⟨hd', hfree⟩ := stays_of_rename hp hd (by assumption)
      have hfree := rotate_of_free hp hu hl n hd' hfree
      rw [h] at hfree
      rcases hfree with hfree | hfree
      · cases hfree
      · exact absurd (Option.some.inj hfree) hc

theorem locate_ne_missing (hr : d.Reaches p) (i : Nat) :
    d.locate (numbered p i) ≠ .error .missing := by
  have hc := unusable?_numbered hp hu i
  split at hc
  · rw [Disk.locate, Disk.walk, hc]
    simp
  · rw [Disk.locate_of_reaches (isName_numbered p i) hc ((reaches_numbered i).mpr hr)]
    split
    · simp
    · simp

theorem misses_of_rotate (hl : Disk.isTooLong p.fileName = false) (hd : Stays p d) {keep : Int}
    (h : rotate p keep d = (e, some .missing)) : e.Misses p := by
  rw [rotate_depth] at h
  obtain ⟨n, hn⟩ := exists_depth_eq keep
  rw [hn] at h
  clear hn
  induction n generalizing d with
  | zero =>
    rw [rotate_one] at h
    split at h
    · rename_i hren
      obtain ⟨rfl, hcause⟩ := Prod.mk.inj h
      rw [Option.some.inj hcause] at hren
      refine hd.way.resolve_left fun hr => ?_
      have hloc := Disk.locate_of_reaches hp hu hr
      rw [hl, if_neg Bool.false_ne_true] at hloc
      exact Disk.rename_ne_missing hloc hd.present (locate_ne_missing hp hu hr 1) hren
    · cases h
  | succ n ih =>
    rw [rotate_succ] at h
    split at h
    · rename_i hfind
      obtain ⟨_, hcause⟩ := Prod.mk.inj h
      rw [Option.some.inj hcause, Disk.find] at hfind
      split at hfind <;> cases hfind
    · exact ih hd h
    rename_i node hfind
    obtain ⟨hloc, ha⟩ := Disk.locate_of_find_some hfind
    split at h
    · rename_i hren
      obtain ⟨_, hcause⟩ := Prod.mk.inj h
      rw [Option.some.inj hcause] at hren
      have hr := (reaches_numbered (n + 1)).mp
        (Disk.reaches_of_locate (isName_numbered p (n + 1)) hloc).1
      exact absurd hren
        (Disk.rename_ne_missing hloc (by rw [ha]; rfl) (locate_ne_missing hp hu hr (n + 2)))
    · obtain ⟨hd', _⟩ := stays_of_rename hp hd (by assumption)
      exact ih hd' h

end

end Rotation

theorem Disk.openFile_of_file {id : FileId} (h : d.find p = .ok (some (.file id))) :
    d.openFile p = .ok (d, id) := by
  obtain ⟨hloc, ha⟩ := locate_of_find_some h
  simp only [openFile, hloc, bind, Except.bind, ha]
  rfl

theorem rotate_refused_of_openFile {keep : Int} {cause : Refusal} {node : Node}
    {opened : Disk × FileId} (hp : IsName p.fileName) (hd : d.IsSound)
    (hf : d.find p = .ok (some node)) (h : rotate p keep d = (e, some cause))
    (hopen : e.openFile p = .ok opened) : e = d := by
  have hloc := (Disk.locate_of_find_some hf).1
  have hu := Disk.unusable?_of_locate hloc
  have hl := (Disk.reaches_of_locate hp hloc).2
  have hstays := stays_of_find hp hd hf
  apply rotate_refused hp hu hl hstays h
  rintro rfl
  have hfound := (Disk.openFile_eq_ok hopen).1
  rw [Disk.locate_of_misses hp hu (misses_of_rotate hp hu hl hstays h)] at hfound
  cases hfound

theorem Logger.makeRoom_of_unchanged {l : Logger} {keep : Int} {id : FileId}
    (hpath : l.path = some p) (hkeep : l.keep.integer? = some keep)
    (hfile : d.find p = .ok (some (.file id))) (hlimit : l.limit.isTrue)
    (hsize : l.limit.bounds? (d.size (.file id)) = some false)
    (hkept : (rotate p keep d).1 = d) :
    l.makeRoom d = (d, { l with sink := some (.file id) }, none) := by
  have hdue : isDue? p l.limit d = some true := by
    rw [isDue?_of_file hfile hlimit]
    exact congrArg (Option.map _) hsize
  rw [makeRoom, hpath]
  dsimp only
  rw [hdue, hkeep]
  dsimp only
  rw [hkept, Disk.openFile_of_file hfile]

/-- When a rotation is refused, every name keeps what it had, and the call writes its line to the
log file as if no rotation had been due. -/
theorem log_after_refused_rotation {l : Logger} {w : World} {level : Level} {message : Value}
    {context : List (Value × Value)} {line : Text} {keep : Int} {id : FileId} {cause : Refusal}
    (hd : w.disk.IsSound) (hpath : l.path = some p) (hopen : l.sink.isSome)
    (hkeep : l.keep.integer? = some keep) (hfile : w.disk.find p = .ok (some (.file id)))
    (hlimit : l.limit.isTrue) (hsize : l.limit.bounds? (w.disk.size (.file id)) = some false)
    (hline : l.line w.now level message context = .ok line)
    (hrefused : (rotate p keep w.disk).2 = some cause) (hc : cause ≠ .missing) :
    (rotate p keep w.disk).1 = w.disk ∧ ∃ w',
      l.log level message context w = (w', { l with sink := some (.file id) }, none) ∧
      (∀ place, w'.disk.at? place = w.disk.at? place) ∧
      w'.disk.find p = .ok (some (.file id)) ∧
      ∀ file, w'.disk.content file =
        if file = id then w.disk.content id ++ Utf8.encode (line ++ [CodePoint.newline])
        else w.disk.content file := by
  obtain ⟨hloc, ha⟩ := Disk.locate_of_find_some hfile
  have hp := isName_of_find hd hfile
  have hl := (Disk.reaches_of_locate hp hloc).2
  have hkept : (rotate p keep w.disk).1 = w.disk :=
    rotate_refused hp (Disk.unusable?_of_locate hloc) hl (stays_of_find hp hd hfile)
      (Prod.ext rfl hrefused) hc
  have hroom := Logger.makeRoom_of_unchanged hpath hkeep hfile hlimit hsize hkept
  have hsink : l.sink.isNone = false := by
    rw [Option.isNone_eq_false_iff]
    exact hopen
  let octets := Utf8.encode (line ++ [CodePoint.newline])
  let printed := if l.console.isTrue then w.print (line ++ [CodePoint.newline]) else w
  refine ⟨hkept, { printed with disk := w.disk.append id octets }, ?_, fun _ => rfl, ?_, ?_⟩
  · rw [Logger.log, hline]
    dsimp only
    rw [Logger.deliver, hsink, if_neg Bool.false_ne_true, l.disk_console, hroom]
    rfl
  · have hwritten : (w.disk.append id octets).locate p = .ok p.place := by
      rw [← hloc]
      exact Disk.locate_congr fun _ => rfl
    rw [Disk.find_of_locate hwritten]
    exact congrArg Except.ok ha
  · intro file
    exact Disk.content_append _ _ octets (hd.held ha) file

namespace Blocked

def path : Location := ⟨.relative, ["a.log"]⟩

def place (name : Text) : Place := [SystemName.encode name]

def disk : Disk :=
  let d := (Disk.empty.create (place "a.log")).1.append 0 [1, 2]
  ((d.create (place "a.2.log")).1.append 1 [3]).add (place "a.3.log") .directory

theorem isSound_disk : disk.IsSound := by
  apply Disk.IsSound.addDirectory _ rfl rfl rfl
  apply Disk.IsSound.append
  apply Disk.IsSound.create _ rfl rfl rfl
  apply Disk.IsSound.append
  exact Disk.isSound_empty.create rfl rfl rfl

def world : World := ⟨0, [], [], [], disk⟩

def logger : Logger :=
  ⟨"c", "s", 0, ⟨.bool true, [], []⟩, .int 1, .int 3, .bool false, some path, some (.file 0)⟩

theorem log_behind_directory : (rotate path 3 disk).2 = some .isDirectory ∧ ∃ line w',
    logger.line 0 .info (.text "m") [] = .ok line ∧
    logger.log .info (.text "m") [] world = (w', logger, none) ∧
    w'.disk.content 0 = [1, 2] ++ Utf8.encode (line ++ [CodePoint.newline]) := by
  have hline : ∃ line, logger.line 0 .info (.text "m") [] = .ok line := by
    cbv
    exact ⟨_, rfl⟩
  have hrefused : (rotate path 3 disk).2 = some .isDirectory := by
    rfl
  obtain ⟨line, hline⟩ := hline
  obtain ⟨_, w', hlog, _, _, hcontent⟩ :=
    log_after_refused_rotation (w := world) isSound_disk rfl rfl rfl rfl rfl (by decide +kernel)
      hline hrefused (by decide)
  exact ⟨hrefused, line, w', hline, hlog, hcontent 0⟩

end Blocked

end DriveBridge
