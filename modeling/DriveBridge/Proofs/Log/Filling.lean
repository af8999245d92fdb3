import DriveBridge.Proofs.Log.Succession

namespace DriveBridge

open Location Rotation Retention

namespace Filling

variable {p : Location} {limit : Value} {keep : Int} {d e : Disk} {w w' : World} {l l' : Logger}
  {found : List Disk} {Kind : List Text → Prop} {lines : List Text} {line : Text} {id : FileId}

structure LeavesAlone (p : Location) (d e : Disk) : Prop where
  sound : e.IsSound
  found : ∀ i, e.find (generation p i) = d.find (generation p i)
  octets : ∀ i, e.read (generation p i) = d.read (generation p i)

/-- Calls of a logger that all go through, with the disks that they found and the lines that they
logged. What else happens in the world leaves the log alone. -/
inductive Run (p : Location) (w : World) (l : Logger) :
    List Disk → List Text → World → Logger → Prop
  | start : Run p w l [] [] w l
  | logged {found : List Disk} {lines : List Text} {w₁ w₂ : World} {l₁ l₂ : Logger}
      {level : Level} {message : Value} {context : List (Value × Value)} {line : Text}
      (hr : Run p w l found lines w₁ l₁) (hline : l₁.line w₁.now level message context = .ok line)
      (h : l₁.log level message context w₁ = (w₂, l₂, none)) :
      Run p w l (found ++ [w₁.disk]) (lines ++ [line]) w₂ l₂
  | elsewhere {found : List Disk} {lines : List Text} {w₁ w₂ : World} {l₁ : Logger}
      (hr : Run p w l found lines w₁ l₁) (h : LeavesAlone p w₁.disk w₂.disk) :
      Run p w l found lines w₂ l₁

structure IsOpen (p : Location) (limit : Value) (keep : Int) (d : Disk) (l : Logger) : Prop
    extends l.IsAt p keep d where
  sound : d.IsSound
  bound : l.limit = limit

def Fits (limit : Value) (part : List Text) : Prop :=
  limit.bounds? (octetsOf part).length = some true

def Exceeds (limit : Value) (part : List Text) : Prop :=
  limit.bounds? (octetsOf part).length = some false

def FitsBefore (limit : Value) (part : List Text) : Prop := Fits limit part.dropLast

/-- Each rotated file holds lines in a row that are of some kind and exceed the limit. -/
def AreFilled (p : Location) (limit : Value) (Kind : List Text → Prop) (lines : List Text)
    (d : Disk) : Prop :=
  ∀ i id, d.find (generation p (i + 1)) = .ok (some (.file id)) →
    ∃ part, part <:+: lines ∧ d.content id = octetsOf part ∧ Kind part ∧ Exceeds limit part

structure IsFilled (p : Location) (limit : Value) (Kind : List Text → Prop) (lines : List Text)
    (d : Disk) : Prop where
  log : ∃ part, part <:+ lines ∧ part.getLast? = lines.getLast? ∧
    d.read p = octetsOf part ∧ Kind part
  rotated : AreFilled p limit Kind lines d

structure HasRoom (p : Location) (limit : Value) (Kind : List Text → Prop) (lines : List Text)
    (line : Text) (d : Disk) : Prop where
  log : ∃ part, part <:+ lines ∧ d.read p = octetsOf part ∧ Kind (part ++ [line])
  rotated : AreFilled p limit Kind lines d

namespace IsOpen

theorem append (h : IsOpen p limit keep d l) (id : FileId) (octets : List UInt8) :
    IsOpen p limit keep (d.append id octets) l :=
  ⟨h.congr (Disk.find_append d id octets), h.sound.append id octets, h.bound⟩

theorem spared (h : IsOpen p limit keep d l) (hs : LeavesAlone p d e) :
    IsOpen p limit keep e l := ⟨h.congr (hs.found 0), hs.sound, h.bound⟩

theorem room (h : IsOpen p limit keep d l) (hm : l.makeRoom d = (e, l', none)) :
    IsOpen p limit keep e l' := by
  rcases Logger.makeRoom_eq_none h.path hm with ⟨_, rfl, rfl⟩ | ⟨n, id, _, hn, hopen, rfl⟩
  · exact h
  · have hs := isSound_rotate (h.isName h.sound) h.sound n
    constructor
    · exact ⟨h.path, h.count, id, rfl, Disk.find_of_openFile hopen⟩
    · exact (Disk.openFile_spec hs hopen).1
    · exact h.bound

theorem logged (h : IsOpen p limit keep w.disk l) {level : Level} {message : Value}
    {context : List (Value × Value)} (hline : l.line w.now level message context = .ok line)
    (hlog : l.log level message context w = (w', l', none)) :
    ∃ e id, l.makeRoom w.disk = (e, l', none) ∧ IsOpen p limit keep e l' ∧
      l'.sink = some (.file id) ∧ w'.disk = e.append id (octetsOf [line]) := by
  have hopen : l.sink.isSome := by
    obtain ⟨id, hid, _⟩ := h.handle
    rw [hid]
    rfl
  generalize hm : l.makeRoom w.disk = made
  obtain ⟨e, room, failure⟩ := made
  cases failure with
  | some cause =>
    have hfailed := Logger.log_of_no_room hline hopen hm
    rw [hlog] at hfailed
    cases hfailed
  | none =>
    have hroom := h.room hm
    obtain ⟨id, hid, _⟩ := hroom.handle
    obtain ⟨w₂, hwritten, hdisk⟩ := Logger.log_of_room hline hopen hm hid
    cases hlog.symm.trans hwritten
    refine ⟨e, id, rfl, hroom, hid, ?_⟩
    rw [hdisk, octetsOf, List.flatMap_singleton]

theorem room_cases (h : IsOpen p limit keep d l) (hlimit : limit.isTrue)
    (hm : l.makeRoom d = (e, l', none)) (hfile : d.find p = .ok (some (.file id))) :
    limit.bounds? (d.content id).length = some true ∧ e = d ∨
    limit.bounds? (d.content id).length = some false ∧ (∃ new, IsShifted p keep d e new) ∨
    isDue? p limit d = some true ∧ (rotate p keep d).2 ≠ none ∧ e = d := by
  rcases Logger.makeRoom_eq_none h.path hm with ⟨hno, rfl, _⟩ | ⟨n, new, hyes, hn, hopen, _⟩
  · rw [h.bound] at hno
    exact .inl ⟨bounds?_of_isDue? hfile hlimit hno, rfl⟩
  right
  rw [h.bound] at hyes
  cases h.count.symm.trans hn
  cases hdone : (rotate p keep d).2 with
  | none =>
    have hsize : limit.bounds? (d.content id).length = some false :=
      bounds?_of_isDue? hfile hlimit hyes
    obtain ⟨f, new, hroom, hshift⟩ := Logger.makeRoom_of_rotated h.sound h.path h.count hfile
      (h.bound ▸ hlimit) (h.bound ▸ hsize) hdone
    cases hm.symm.trans hroom
    exact .inl ⟨hsize, new, hshift⟩
  | some cause =>
    have hrefused : rotate p keep d = ((rotate p keep d).1, some cause) := Prod.ext rfl hdone
    rw [rotate_refused_of_openFile (h.isName h.sound) h.sound hfile hrefused hopen,
      Disk.openFile_of_file hfile] at hopen
    cases hopen
    exact .inr ⟨hyes, by simp, rfl⟩

theorem rotates (h : IsOpen p limit keep d l) (hfits : IsNameable p (depth keep))
    (hno : ∀ i ≤ depth keep, d.find (generation p i) ≠ .ok (some .directory)) :
    (rotate p keep d).2 = none := by
  obtain ⟨id, _, hfile⟩ := h.handle
  have hp := h.isName h.sound
  have hloc := (Disk.locate_of_find_some hfile).1
  obtain ⟨hr, hlong⟩ := Disk.reaches_of_locate hp hloc
  have hstays := stays_of_find hp h.sound hfile
  have hnone (j : Nat) (hj : j ≤ depth keep) :
      d.at? (generation p j).place ≠ some .directory := by
    intro hdir
    apply hno j hj
    rw [find_of_nameable h.sound hfile hfits hj, hdir]
  obtain ⟨n, hn⟩ := exists_depth_eq keep
  rw [hn] at hfits hnone
  rw [rotate_depth, hn]
  exact rotate_of_no_directory hp (Disk.unusable?_of_locate hloc) hlong n hstays hr hfits hnone

end IsOpen

theorem noDirectory_room (ho : IsOpen p limit keep d l) (hlimit : limit.isTrue)
    (hm : l.makeRoom d = (e, l', none))
    (hno : ∀ i ≤ depth keep, d.find (generation p i) ≠ .ok (some .directory)) {i : Nat}
    (hi : i ≤ depth keep) : e.find (generation p i) ≠ .ok (some .directory) := by
  obtain ⟨id, _, hfile⟩ := ho.handle
  rcases ho.room_cases hlimit hm hfile with ⟨_, rfl⟩ | ⟨_, new, hshift⟩ | ⟨_, _, rfl⟩
  · exact hno i hi
  · cases i with
    | zero =>
      rw [generation, hshift.log]
      simp
    | succ i =>
      intro hdir
      obtain ⟨j, hj, hformer⟩ := hshift.find_former ho.sound hfile hdir
      exact hno j (by omega) hformer
  · exact hno i hi

theorem IsFilled.hasRoom (hk : IsFilled p limit Kind lines d) (ho : IsOpen p limit keep d l)
    (hlimit : limit.isTrue) (hpos : Fits limit []) (hm : l.makeRoom d = (e, l', none))
    (hkind : ∀ part line, Fits limit part → Kind (part ++ [line]))
    (hon : isDue? p limit d = some true → (rotate p keep d).2 ≠ none →
      ∀ part line, Kind part → Kind (part ++ [line])) (line : Text) :
    HasRoom p limit Kind lines line e := by
  obtain ⟨id, _, hfile⟩ := ho.handle
  obtain ⟨part, hlast, _, hoctets, hpart⟩ := hk.log
  have hcontent : d.content id = octetsOf part := by
    rw [← hoctets, Disk.read_of_find hfile]
  rcases ho.room_cases hlimit hm hfile with ⟨hfits, rfl⟩ | ⟨hexceeds, new, hshift⟩ |
    ⟨hdue, hrefused, rfl⟩
  · rw [hcontent] at hfits
    exact ⟨⟨part, hlast, hoctets, hkind part line hfits⟩, hk.rotated⟩
  · rw [hcontent] at hexceeds
    constructor
    · refine ⟨[], List.nil_suffix, ?_, hkind [] line hpos⟩
      rw [Disk.read_of_find hshift.log, hshift.blank]
      rfl
    · intro i file hfound
      rw [hshift.contents]
      obtain ⟨j, _, hformer⟩ := hshift.find_former ho.sound hfile hfound
      cases j with
      | zero =>
        -- The file of the log itself has just been found too long.
        cases hfile.symm.trans hformer
        exact ⟨part, hlast.isInfix, hcontent, hpart, hexceeds⟩
      | succ j => exact hk.rotated j file hformer
  · exact ⟨⟨part, hlast, hoctets, hon hdue hrefused part line hpart⟩, hk.rotated⟩

theorem HasRoom.append (hr : HasRoom p limit Kind lines line d) (hd : d.IsSound)
    (hf : d.find p = .ok (some (.file id))) :
    IsFilled p limit Kind (lines ++ [line]) (d.append id (octetsOf [line])) := by
  obtain ⟨part, hlast, hoctets, hpart⟩ := hr.log
  constructor
  · refine ⟨part ++ [line], ?_, ?_, ?_, hpart⟩
    · obtain ⟨front, hfront⟩ := hlast
      exact ⟨front, by rw [← List.append_assoc, hfront]⟩
    · rw [List.getLast?_concat, List.getLast?_concat]
    · rw [Disk.read_append hd hf, if_pos hf, hoctets, octetsOf_append]
  · intro i file hfound
    rw [Disk.find_append] at hfound
    obtain ⟨part, hwithin, hcontent, hpart⟩ := hr.rotated i file hfound
    refine ⟨part, hwithin.trans (List.prefix_append lines [line]).isInfix, ?_, hpart⟩
    rw [Disk.content_append d id _ (hd.held (Disk.locate_of_find_some hf).2), if_neg, hcontent]
    rintro rfl
    have hp := isName_of_find hd hf
    exact Nat.succ_ne_zero i (find_generation_injective (j := 0) hp hd hfound hf)

theorem IsFilled.spared (hk : IsFilled p limit Kind lines d) (hs : LeavesAlone p d e) :
    IsFilled p limit Kind lines e := by
  obtain ⟨part, hlast, hends, hoctets, hpart⟩ := hk.log
  constructor
  · exact ⟨part, hlast, hends, (hs.octets 0).trans hoctets, hpart⟩
  · intro i id hfound
    have hsame := hs.octets (i + 1)
    rw [Disk.read_of_find hfound] at hsame
    rw [hs.found] at hfound
    rw [Disk.read_of_find hfound] at hsame
    rw [hsame]
    exact hk.rotated i id hfound

section

variable {w₀ : World} {l₀ : Logger} (hrun : Run p w₀ l₀ found lines w l)
  (ho : IsOpen p limit keep w₀.disk l₀)
include hrun ho

theorem run_isOpen : IsOpen p limit keep w.disk l := by
  induction hrun with
  | start => exact ho
  | logged _ hline h ih =>
    obtain ⟨e, id, _, hroom, _, hw⟩ := ih.logged hline h
    rw [hw]
    exact hroom.append id _
  | elsewhere _ h ih => exact ih.spared h

variable (hlimit : limit.isTrue)
include hlimit

theorem run_isFilled (hpos : Fits limit []) (hk : IsFilled p limit Kind [] w₀.disk)
    (hkind : ∀ part line, Fits limit part → Kind (part ++ [line]))
    (hon : ∀ d ∈ found, isDue? p limit d = some true → (rotate p keep d).2 ≠ none →
      ∀ part line, Kind part → Kind (part ++ [line])) :
    IsFilled p limit Kind lines w.disk := by
  induction hrun with
  | start => exact hk
  | @logged found _ _ _ _ _ _ _ _ line hr hline h ih =>
    have hopen := run_isOpen hr ho
    obtain ⟨e, id, hm, hroom, hid, hw⟩ := hopen.logged hline h
    have hfilled := ih fun d hd => hon d (List.mem_append_left _ hd)
    have hlast := hon _ (List.mem_append_right found (List.mem_singleton_self _))
    obtain ⟨file, hfile, hfind⟩ := hroom.handle
    cases hid.symm.trans hfile
    rw [hw]
    exact (hfilled.hasRoom hopen hlimit hpos hm hkind hlast line).append hroom.sound hfind
  | elsewhere _ h ih => exact (ih hon).spared h

theorem run_rotates (hfits : IsNameable p (depth keep))
    (hno : ∀ i ≤ depth keep, w₀.disk.find (generation p i) ≠ .ok (some .directory)) :
    (∀ i ≤ depth keep, w.disk.find (generation p i) ≠ .ok (some .directory)) ∧
      ∀ d ∈ found, (rotate p keep d).2 = none := by
  induction hrun with
  | start => exact ⟨hno, List.forall_mem_nil _⟩
  | logged hr hline h ih =>
    obtain ⟨hbefore, hdone⟩ := ih
    have hopen := run_isOpen hr ho
    obtain ⟨e, id, hm, _, _, hw⟩ := hopen.logged hline h
    constructor
    · intro i hi
      rw [hw, Disk.find_append]
      exact noDirectory_room hopen hlimit hm hbefore hi
    · rw [List.forall_mem_append]
      exact ⟨hdone, List.forall_mem_singleton.mpr (hopen.rotates hfits hbefore)⟩
  | elsewhere _ h ih =>
    refine ⟨?_, ih.2⟩
    intro i hi
    rw [h.found]
    exact ih.1 i hi

end

theorem length_le_of_fitsBefore {n : Int} {last : Text} {part : List Text}
    (h : FitsBefore (.int n) part) (hlast : part.getLast? = some last) :
    ((octetsOf part).length : Int) ≤ n + (octetsOf [last]).length := by
  obtain ⟨front, rfl⟩ := List.getLast?_eq_some_iff.mp hlast
  rw [FitsBefore, List.dropLast_concat] at h
  have hfront : ((octetsOf front).length : Int) ≤ n := of_decide_eq_true (Option.some.inj h)
  rw [octetsOf_append, List.length_append]
  omega

section

variable {o : LoggerOptions} (hd : w.disk.IsSound) (hx : w.disk.Exposes p)
  (ho : o.output = .file p) (hmake : o.make w = (w', .ok l))
  (hfree : ∀ i node, w.disk.find (generation p i) ≠ .ok (some node))
include hd hx ho hmake hfree

theorem make_isOpen (hkeep : o.maxFiles.integer? = some keep) (limit : Value) :
    IsOpen p limit keep w'.disk { l with limit := limit } ∧ w'.disk.read p = [] := by
  obtain ⟨hs, _, hread, hat⟩ := make_kept hd hx ho hkeep hmake
  obtain ⟨hpath, hcount, hhandle⟩ := hat l rfl
  refine ⟨⟨⟨hpath, hcount, hhandle⟩, hs, rfl⟩, (hread 0).trans ?_⟩
  exact Disk.read_of_no_file fun id => hfree 0 _

theorem make_no_rotated (i : Nat) :
    (∀ id, w'.disk.find (generation p (i + 1)) ≠ .ok (some (.file id))) ∧
      ∀ k, p.IsDirectTo k → i + 1 ≤ k →
        w'.disk.find (generation p (i + 1)) ≠ .ok (some .directory) := by
  rcases LoggerOptions.make_cases hmake with ⟨_, hl⟩ | ⟨q, opened, hq, hb, hl⟩
  · exact absurd ho ((hl l rfl).2 p)
  obtain rfl := Output.file.inj (ho.symm.trans hq)
  obtain ⟨id, rfl, _⟩ := hl l rfl
  obtain ⟨hmade, hextended⟩ := Disk.makeDirectories_spec hd p.parent
  have hopen := Disk.openFile_of_openBelow hb
  have hp := isName_of_find (Disk.openFile_spec hmade hopen).1 (Disk.find_of_openFile hopen)
  have hx := exposes_generation hx (i + 1)
  rw [find_openFile hp hopen]
  constructor
  · intro file hfile
    rw [hextended.find_file hd hmade hx] at hfile
    exact hfree (i + 1) _ hfile
  · intro k hdirect hi hdir
    -- A directory on the way may be new, but not one at a rotated name.
    have hq := isName_generation hp (i + 1)
    have ha := (Disk.locate_of_find_some hdir).2
    have hsame := Disk.at?_makeDirectories (d := w.disk) (isName_fileName_ne_nil hp) hdirect hi
    have hr := Disk.reaches_of_find hq hdir
    have hr' := Disk.reaches_of_at? hd hq hx hr (by rw [generation, ← hsame]; exact ha ▸ rfl)
    apply hfree (i + 1) .directory
    rw [← hdir]
    exact Disk.find_congr_of_reaches hq hr hr' hsame.symm

end

end Filling

open Filling

/-- Each rotated file exceeds the limit. While no rotation that is due is refused, it does so with
its last line and not before, and so does the log file if it exceeds the limit at all. No rotation
is refused for a path that does not lead through its own rotated names and leaves room for them. -/
theorem log_keeps_limit {p : Location} {limit : Value} {keep : Int} {o : LoggerOptions}
    {w₀ w w' : World} {l l' : Logger} {found : List Disk} {lines : List Text}
    (hd : w₀.disk.IsSound) (ho : o.output = .file p) (hkeep : o.maxFiles.integer? = some keep)
    (hfree : ∀ i node, w₀.disk.find (generation p i) ≠ .ok (some node))
    (hx : w₀.disk.Exposes p) (hmake : o.make w₀ = (w, .ok l)) (hlimit : limit.isTrue)
    (hpos : limit.bounds? 0 = some true)
    (hrun : Run p w { l with limit := limit } found lines w' l') :
    (∃ id, l'.sink = some (.file id) ∧ w'.disk.find p = .ok (some (.file id))) ∧
    IsFilled p limit (fun _ => True) lines w'.disk ∧
    ((∀ d ∈ found, isDue? p limit d = some true → (rotate p keep d).2 = none) →
      IsFilled p limit (FitsBefore limit) lines w'.disk ∧
      ∀ n last, limit = .int n → lines.getLast? = some last →
        ((w'.disk.read p).length : Int) ≤ n + (octetsOf [last]).length) ∧
    (p.IsDirectTo (depth keep) → IsNameable p (depth keep) →
      ∀ d ∈ found, (rotate p keep d).2 = none) := by
  obtain ⟨hopen, hempty⟩ := make_isOpen hd hx ho hmake hfree hkeep limit
  have hno := make_no_rotated hd hx ho hmake hfree
  have hstart {Kind : List Text → Prop} (h : Kind []) : IsFilled p limit Kind [] w.disk := by
    constructor
    · exact ⟨[], List.nil_suffix, rfl, hempty, h⟩
    · exact fun i id hat => absurd hat ((hno i).1 id)
  refine ⟨(run_isOpen hrun hopen).handle, ?_, ?_, ?_⟩
  · apply run_isFilled hrun hopen hlimit hpos (hstart trivial)
    · exact fun _ _ _ => trivial
    · exact fun _ _ _ _ _ _ _ => trivial
  · intro hdone
    have hfilled : IsFilled p limit (FitsBefore limit) lines w'.disk := by
      apply run_isFilled hrun hopen hlimit hpos (hstart hpos)
      · intro part line hfits
        rwa [FitsBefore, List.dropLast_concat]
      · exact fun d hd hdue hrefused => absurd (hdone d hd hdue) hrefused
    refine ⟨hfilled, ?_⟩
    rintro n last rfl hlast
    obtain ⟨part, _, hends, hoctets, hpart⟩ := hfilled.log
    rw [hoctets]
    exact length_le_of_fitsBefore hpart (hends.trans hlast)
  · intro hdirect hfits
    refine (run_rotates hrun hopen hlimit hfits ?_).2
    intro i hi hdir
    cases i with
    | zero =>
      obtain ⟨id, _, hfile⟩ := hopen.handle
      cases hfile.symm.trans hdir
    | succ i => exact (hno i).2 (depth keep) hdirect hi hdir

namespace Filling.Twice

open Trial

def path (letters : Nat) : Location := ⟨.relative, [List.replicate letters 0x61]⟩

def limited (p : Location) (d : Disk) (limit : Int) : Logger :=
  { logger p 1 (.int 1048576) d 0 with limit := .int limit }

def first (p : Location) (d : Disk) (limit : Int) : World × Logger × Option LogError :=
  call (limited p d limit) (opened p 1 (.int 1) d)

def second (p : Location) (d : Disk) (limit : Int) : World × Logger × Option LogError :=
  call (first p d limit).2.1 (first p d limit).1

def firstLine (p : Location) (d : Disk) (limit : Int) : Text :=
  lineOf (limited p d limit) (opened p 1 (.int 1) d)

def lines (p : Location) (d : Disk) (limit : Int) : List Text :=
  [firstLine p d limit, lineOf (first p d limit).2.1 (first p d limit).1]

theorem not_found {letters : Nat} (h : 0 < letters) (i : Nat) (node : Node) :
    Disk.empty.find (generation (path letters) i) ≠ .ok (some node) := by
  have hp : IsName (path letters).fileName := by
    apply isName_of_mem (c := 0x61)
    · exact List.mem_replicate.mpr ⟨Nat.ne_of_gt h, rfl⟩
    · decide
  intro hf
  have ha := (Disk.locate_of_find_some hf).2
  rw [Disk.at?, isEnclosing_generation hp i] at ha
  cases ha

structure IsRun (p : Location) (d : Disk) (limit : Int) (found : List Disk) (lines : List Text)
    (w : World) (l : Logger) : Prop where
  sound : d.IsSound
  absent : ∀ i node, (start d).disk.find (generation p i) ≠ .ok (some node)
  made : (options p 1 (.int 1)).make (start d) =
    (opened p 1 (.int 1) d, .ok (logger p 1 (.int 1048576) d 0))
  run : Run p (opened p 1 (.int 1) d) (limited p d limit) found lines w l

section

variable {p : Location} {d : Disk} {limit : Int} (hd : d.IsSound)
  (hfree : ∀ i node, d.find (generation p i) ≠ .ok (some node))
  (hmake : (d.openBelow p).2.toOption = some 0) (hfirst : (first p d limit).2.2.isNone)
include hd hfree hmake hfirst

theorem isRun_first : IsRun p d limit [(opened p 1 (.int 1) d).disk] [firstLine p d limit]
    (first p d limit).1 (first p d limit).2.1 := by
  obtain ⟨hline, hlog⟩ := line_of_call hfirst
  exact ⟨hd, hfree, make_start rfl hmake, .logged .start hline hlog⟩

theorem isRun_second (hsecond : (second p d limit).2.2.isNone) :
    IsRun p d limit [(opened p 1 (.int 1) d).disk, (first p d limit).1.disk] (lines p d limit)
      (second p d limit).1 (second p d limit).2.1 := by
  obtain ⟨hline, hlog⟩ := line_of_call hsecond
  exact ⟨hd, hfree, make_start rfl hmake, (isRun_first hd hfree hmake hfirst).run.logged hline hlog⟩

end

theorem rotated_between : ∃ id,
    (second (path 1) .empty 1).2.1.sink = some (.file id) ∧
    (second (path 1) .empty 1).1.disk.find (path 1) = .ok (some (.file id)) ∧
    (second (path 1) .empty 1).1.disk.find (generation (path 1) 1) = .ok (some (.file 0)) ∧
    IsFilled (path 1) (.int 1) (FitsBefore (.int 1)) (lines (path 1) .empty 1)
      (second (path 1) .empty 1).1.disk := by
  have hrun := @isRun_second (path 1) .empty 1 Disk.isSound_empty (not_found (by decide))
    (by decide +kernel) (by decide +kernel) (by decide +kernel)
  have hdown : Disk.upward ∉ (path 1).names := by decide
  have hfits : IsNameable (path 1) (depth 1) := by
    constructor
    · rfl
    · rfl
  have hsound : (start .empty).disk.IsSound := hrun.sound
  obtain ⟨⟨id, hid, hfile⟩, _, hfilled, hdone⟩ :=
    log_keeps_limit hsound rfl rfl hrun.absent (.inl hdown) hrun.made rfl rfl hrun.run
  refine ⟨id, hid, hfile, by decide +kernel, ?_⟩
  exact (hfilled fun d hd _ => hdone ((isDirect_of_not_upward hdown).to _) hfits d hd).1

/-- The rotated name of a log with a long name is too long. So every rotation is refused, and the
log file is longer than its limit before its last line already. A file that is hidden behind a
missing directory is rotated although the run has not filled it. -/
theorem filled_beyond_limit :
    (IsRun (path 254) .empty 1
        [(opened (path 254) 1 (.int 1) .empty).disk, (first (path 254) .empty 1).1.disk]
        (lines (path 254) .empty 1) (second (path 254) .empty 1).1
        (second (path 254) .empty 1).2.1 ∧
      (second (path 254) .empty 1).1.disk.read (path 254) = octetsOf (lines (path 254) .empty 1) ∧
      Exceeds (.int 1) (lines (path 254) .empty 1).dropLast) ∧
    IsRun Hidden.path Hidden.disk 10 [(opened Hidden.path 1 (.int 1) Hidden.disk).disk]
        [firstLine Hidden.path Hidden.disk 10] (first Hidden.path Hidden.disk 10).1
        (first Hidden.path Hidden.disk 10).2.1 ∧
      (first Hidden.path Hidden.disk 10).1.disk.read (generation Hidden.path 1) =
        octetsOf [Hidden.line, Hidden.line] ∧
      Exceeds (.int 10) [Hidden.line] := by
  refine ⟨⟨?_, ?_, ?_⟩, ?_, ?_, ?_⟩
  · exact isRun_second Disk.isSound_empty (not_found (by decide)) (by decide +kernel)
      (by decide +kernel) (by decide +kernel)
  · decide +kernel
  · rw [Exceeds]
    decide +kernel
  · exact isRun_first Hidden.isSound_disk Hidden.not_found (by decide +kernel) (by decide +kernel)
  · decide +kernel
  · rw [Exceeds]
    decide +kernel

end Filling.Twice

end DriveBridge
