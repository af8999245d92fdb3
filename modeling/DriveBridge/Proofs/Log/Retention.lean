import DriveBridge.Proofs.Log.Denotation

/-!
What a log keeps. Over any run of loggers that are opened at one path one after another, the log
file and its rotated files hold the end of what was there and of what was logged since, and only
whole oldest files are missing at the front.
-/

namespace DriveBridge

open Location Rotation

namespace Rotation

variable {p : Location} {d e : Disk} {i k : Nat}

/-- What is found at the `n` youngest names of a log, the oldest first. -/
def kept (p : Location) (d : Disk) : Nat → List UInt8
  | 0 => []
  | n + 1 => d.read (generation p n) ++ kept p d n

theorem kept_congr (n : Nat)
    (h : ∀ i < n, e.read (generation p i) = d.read (generation p i)) : kept p e n = kept p d n := by
  induction n with
  | zero => rfl
  | succ n ih => rw [kept, kept, h n (Nat.lt_succ_self n), ih fun i hi => h i (Nat.lt_succ_of_lt hi)]

theorem kept_append (hp : IsName p.fileName) (hd : d.IsSound) {id : FileId}
    (h : d.find p = .ok (some (.file id))) (octets : List UInt8) (n : Nat) :
    kept p (d.append id octets) (n + 1) = kept p d (n + 1) ++ octets := by
  induction n with
  | zero =>
    simp only [kept, generation, List.append_nil]
    rw [Disk.read_append hd h, if_pos h]
  | succ n ih =>
    have hne : d.find (generation p (n + 1)) ≠ .ok (some (.file id)) := fun hf =>
      Nat.succ_ne_zero n (find_generation_injective (j := 0) hp hd hf h)
    rw [kept, ih, Disk.read_append hd h, if_neg hne, ← List.append_assoc]
    rfl

section

variable (hp : IsName p.fileName) (hdirect : p.IsDirectTo k) (hi : i < k) (hd : LeadsTo p d)
  (h : d.rename (generation p i) (generation p (i + 1)) = .ok e)
include hp hdirect hi hd h

theorem kept_rename : kept p d (i + 2) = d.read (generation p (i + 1)) ++ kept p e (i + 2) := by
  have hread := read_rename hp hdirect hi hd h
  have hbelow := kept_congr (p := p) (d := d) (e := e) i fun j hj => by
    rw [hread, if_neg (by omega), if_neg (by omega)]
  simp only [kept, hbelow]
  rw [hread, if_pos rfl, hread, if_neg (by omega), if_pos rfl, List.nil_append]

theorem kept_rename_of_empty {n : Nat} (hn : i + 2 ≤ n)
    (hempty : d.read (generation p (i + 1)) = []) : kept p e n = kept p d n := by
  obtain ⟨m, rfl⟩ := Nat.exists_eq_add_of_le hn
  clear hn
  induction m with
  | zero => rw [Nat.add_zero, kept_rename hp hdirect hi hd h, hempty, List.nil_append]
  | succ m ih =>
    rw [← Nat.add_assoc, kept, kept, ih, read_rename hp hdirect hi hd h, if_neg (by omega),
      if_neg (by omega)]

end

section

variable (hp : IsName p.fileName) (hdirect : p.IsDirectTo k)
include hp hdirect

theorem kept_rotate_of_empty (n : Nat) (hn : n < k) (hd : LeadsTo p d) {m : Nat} (hm : n + 2 ≤ m)
    (hempty : d.read (generation p (n + 1)) = []) :
    kept p (rotate p (n + 1 : Nat) d).1 m = kept p d m := by
  -- Each rename leaves the next one a name with nothing in it.
  induction n generalizing d with
  | zero =>
    rw [rotate_one]
    split
    · rfl
    · exact kept_rename_of_empty hp hdirect hn hd (by assumption) hm hempty
  | succ n ih =>
    rw [rotate_succ]
    split
    · rfl
    · rename_i hnone
      apply ih (by omega) hd (by omega)
      apply Disk.read_of_no_file
      intro id
      rw [hnone]
      simp
    split
    · rfl
    · rename_i hren
      have hread := read_rename hp hdirect hn hd hren (n + 1)
      rw [if_neg (by omega), if_pos rfl] at hread
      rw [ih (by omega) (hd.rename hp hdirect hn hren) (by omega) hread]
      exact kept_rename_of_empty hp hdirect hn hd hren hm hempty

end

theorem kept_rotate (hp : IsName p.fileName) {keep : Int} (hdirect : p.IsDirectTo (depth keep))
    (hd : LeadsTo p d) : ∃ lost, (lost = [] ∨ lost = d.read (generation p (depth keep))) ∧
      kept p d (depth keep + 1) = lost ++ kept p (rotate p keep d).1 (depth keep + 1) := by
  rw [rotate_depth]
  obtain ⟨n, hn⟩ := exists_depth_eq keep
  rw [hn] at hdirect ⊢
  cases n with
  | zero =>
    rw [rotate_one]
    split
    · exact ⟨[], .inl rfl, rfl⟩
    · exact ⟨_, .inr rfl, kept_rename hp hdirect (Nat.zero_lt_one) hd (by assumption)⟩
  | succ n =>
    rw [rotate_succ]
    split
    · exact ⟨[], .inl rfl, rfl⟩
    · rename_i hnone
      have hempty : d.read (generation p (n + 1)) = [] := by
        apply Disk.read_of_no_file
        intro id
        rw [hnone]
        simp
      have hkept := kept_rotate_of_empty hp hdirect n (by omega) hd (m := n + 1 + 1 + 1) (by omega)
        hempty
      exact ⟨[], .inl rfl, hkept.symm⟩
    split
    · exact ⟨[], .inl rfl, rfl⟩
    · rename_i hren
      have hread := read_rename hp hdirect (Nat.lt_succ_self _) hd hren (n + 1)
      rw [if_neg (by omega), if_pos rfl] at hread
      have hkept := kept_rotate_of_empty hp hdirect n (by omega)
        (hd.rename hp hdirect (Nat.lt_succ_self _) hren) (m := n + 1 + 1 + 1) (by omega) hread
      refine ⟨_, .inr rfl, ?_⟩
      rw [hkept]
      exact kept_rename hp hdirect (Nat.lt_succ_self _) hd hren

end Rotation

namespace Retention

structure Scene where
  world : World
  logger : Option Logger

def Untouched (p : Location) (keep : Int) (d e : Disk) : Prop :=
  ∀ i ≤ depth keep, e.find (generation p i) = d.find (generation p i) ∧
    e.read (generation p i) = d.read (generation p i)

/-- What can happen around a log file that one logger at a time writes, with the lines that calls
have logged without a failure. -/
inductive Turn (p : Location) (keep : Int) : Scene → List Text → Scene → Prop
  | opened {w w' : World} {o : LoggerOptions} {l : Logger} (ho : o.output = .file p)
      (hk : o.maxFiles.integer? = some keep) (h : o.make w = (w', .ok l)) :
      Turn p keep ⟨w, none⟩ [] ⟨w', some l⟩
  | unopened {w w' : World} {o : LoggerOptions} {cause : LogError} (ho : o.output = .file p)
      (hk : o.maxFiles.integer? = some keep) (h : o.make w = (w', .error cause)) :
      Turn p keep ⟨w, none⟩ [] ⟨w', none⟩
  | logged {w w' : World} {l l' : Logger} {level : Level} {message : Value}
      {context : List (Value × Value)} {line : Text}
      (hline : l.line w.now level message context = .ok line)
      (h : l.log level message context w = (w', l', none)) :
      Turn p keep ⟨w, some l⟩ [line] ⟨w', some l'⟩
  | failed {w w' : World} {l l' : Logger} {level : Level} {message : Value}
      {context : List (Value × Value)} {cause : LogError}
      (h : l.log level message context w = (w', l', some cause)) :
      Turn p keep ⟨w, some l⟩ [] ⟨w', some l'⟩
  | limited {w : World} {l : Logger} (limit : Value) :
      Turn p keep ⟨w, some l⟩ [] ⟨w, some { l with limit := limit }⟩
  | closed {w : World} {l : Logger} : Turn p keep ⟨w, some l⟩ [] ⟨w, none⟩
  | elsewhere {w w' : World} {current : Option Logger} (hd : w'.disk.IsSound)
      (h : Untouched p keep w.disk w'.disk) (hx : w.disk.Exposes p → w'.disk.Exposes p) :
      Turn p keep ⟨w, current⟩ [] ⟨w', current⟩

inductive Run (p : Location) (keep : Int) : Scene → List Disk → List Text → Scene → Prop
  | done {s : Scene} : Run p keep s [] [] s
  | turn {s t u : Scene} {past : List Disk} {lines more : List Text} (h : Turn p keep s lines t)
      (hr : Run p keep t past more u) : Run p keep s (s.world.disk :: past) (lines ++ more) u

end Retention

variable {p : Location} {keep : Int} {d : Disk} {w w' : World} {l l' : Logger}

structure Logger.IsAt (l : Logger) (p : Location) (keep : Int) (d : Disk) : Prop where
  path : l.path = some p
  count : l.keep.integer? = some keep
  handle : ∃ id, l.sink = some (.file id) ∧ d.find p = .ok (some (.file id))

namespace Logger.IsAt

theorem isName (hl : l.IsAt p keep d) (hd : d.IsSound) : IsName p.fileName := by
  obtain ⟨id, _, hf⟩ := hl.handle
  exact isName_of_find hd hf

theorem leadsTo (hl : l.IsAt p keep d) (hd : d.IsSound) : LeadsTo p d := by
  obtain ⟨id, _, hf⟩ := hl.handle
  exact .of_find hd hf

theorem congr (hl : l.IsAt p keep d) {e : Disk} (h : e.find p = d.find p) : l.IsAt p keep e := by
  refine ⟨hl.path, hl.count, ?_⟩
  rw [h]
  exact hl.handle

end Logger.IsAt

def IsDroppable (p : Location) (keep : Int) (d : Disk) (lost : List UInt8) : Prop :=
  lost = [] ∨ lost = d.read (generation p (depth keep))

namespace Logger

section

variable (hdirect : p.IsDirectTo (depth keep))
include hdirect

theorem makeRoom_kept (hd : d.IsSound) (hl : l.IsAt p keep d) {d' : Disk}
    {failure : Option LogError} (h : l.makeRoom d = (d', l', failure)) :
    d'.IsSound ∧ l'.IsAt p keep d' ∧ ∃ lost, IsDroppable p keep d lost ∧
      kept p d (depth keep + 1) = lost ++ kept p d' (depth keep + 1) := by
  have hp := hl.isName hd
  rcases makeRoom_cases h with ⟨rfl, rfl | ⟨hnone, _⟩⟩ | ⟨q, n, _, hq, hn, _, h⟩
  · exact ⟨hd, hl, [], .inl rfl, rfl⟩
  · cases hl.count.symm.trans hnone
  obtain rfl : p = q := Option.some.inj (hl.path.symm.trans hq)
  obtain rfl : keep = n := Option.some.inj (hl.count.symm.trans hn)
  obtain ⟨lost, hlost, hk⟩ := kept_rotate hp hdirect (hl.leadsTo hd)
  rcases h with ⟨id, ho, rfl⟩ | ⟨cause, ho, _, _⟩
  · refine ⟨(Disk.openFile_spec (isSound_rotate hp hd keep) ho).1, ?_, lost, hlost, ?_⟩
    · exact ⟨hl.path, hl.count, id, rfl, Disk.find_of_openFile ho⟩
    · rw [hk, kept_congr _ fun i _ => read_openFile hp ho i]
  · obtain ⟨file, _, hf⟩ := hl.handle
    obtain ⟨opened, hopen⟩ := openFile_rotate hp hdirect hd hf
    cases ho.symm.trans hopen

def recorded (line : Text) : (failure : Option LogError) → Text
  | none => line ++ [CodePoint.newline]
  | some _ => []

theorem deliver_kept (hd : w.disk.IsSound) (hl : l.IsAt p keep w.disk) {line : Text}
    {failure : Option LogError} (h : l.deliver line w = (w', l', failure)) :
    w'.disk.IsSound ∧ l'.IsAt p keep w'.disk ∧ ∃ lost, IsDroppable p keep w.disk lost ∧
      kept p w.disk (depth keep + 1) ++ Utf8.encode (recorded line failure) =
        lost ++ kept p w'.disk (depth keep + 1) := by
  rcases deliver_cases h with ⟨_, _, hs⟩ | ⟨d, room, hm, h⟩
  · obtain ⟨id, hid, _⟩ := hl.handle
    cases hid.symm.trans hs
  obtain ⟨hs, hl', lost, hlost, hk⟩ := makeRoom_kept hdirect hd hl hm
  obtain ⟨id, hid, hf⟩ := hl'.handle
  rcases h with ⟨hw, hno⟩ | ⟨file, hfile, rfl, hw⟩
  · rw [hw]
    refine ⟨hs, hl', lost, hlost, ?_⟩
    cases failure with
    | some cause => exact (List.append_nil _).trans hk
    | none =>
      -- A logger at a log file has a handle to write to, so nothing else goes without a failure.
      exfalso
      rw [hid] at hno
      rcases hno with hno | hno | ⟨name, hno⟩ <;> cases hno
  · cases hid.symm.trans hfile
    rw [hw]
    refine ⟨hs.append id _, hl'.congr (Disk.find_append d id _), lost, hlost, ?_⟩
    rw [hk, List.append_assoc, recorded, kept_append (hl'.isName hs) hs hf]

end

end Logger

theorem make_kept (hd : w.disk.IsSound) (hx : w.disk.Exposes p) {o : LoggerOptions}
    (ho : o.output = .file p) (hk : o.maxFiles.integer? = some keep)
    {outcome : Except LogError Logger} (h : o.make w = (w', outcome)) :
    w'.disk.IsSound ∧ w'.disk.Exposes p ∧
      (∀ i, w'.disk.read (generation p i) = w.disk.read (generation p i)) ∧
      ∀ l, outcome = .ok l → l.IsAt p keep w'.disk := by
  rcases LoggerOptions.make_cases h with ⟨hw, hl⟩ | ⟨q, opened, hq, hb, hl⟩
  · refine ⟨hw ▸ hd, hw ▸ hx, fun i => by rw [hw], ?_⟩
    intro l hok
    exact absurd ho ((hl l hok).2 p)
  obtain rfl := Output.file.inj (ho.symm.trans hq)
  obtain ⟨hs, hextended⟩ := Disk.makeDirectories_spec hd p.parent
  have hread (i : Nat) := hextended.read hd hs (exposes_generation hx i)
  cases opened with
  | error cause =>
    rw [Disk.eq_makeDirectories_of_openBelow hb]
    refine ⟨hs, hextended.exposes hx, hread, ?_⟩
    intro l hok
    obtain ⟨_, hid, _⟩ := hl l hok
    cases hid
  | ok id =>
    have hopen := Disk.openFile_of_openBelow hb
    have hf := Disk.find_of_openFile hopen
    have hs' := (Disk.openFile_spec hs hopen).1
    have hp := isName_of_find hs' hf
    refine ⟨hs', .inr (Disk.reaches_of_find hp hf), ?_, ?_⟩
    · intro i
      rw [read_openFile hp hopen, hread]
    · intro l hok
      obtain ⟨_, hid, hpath, hsink, hkeep⟩ := hl l hok
      cases hid
      exact ⟨hpath, hkeep ▸ hk, id, hsink, hf⟩

namespace Retention

variable {s t : Scene} {past : List Disk} {lines : List Text}

def octetsOf (lines : List Text) : List UInt8 :=
  Utf8.encode (lines.flatMap (· ++ [CodePoint.newline]))

theorem octetsOf_append (lines more : List Text) :
    octetsOf (lines ++ more) = octetsOf lines ++ octetsOf more := by
  simp only [octetsOf, Utf8.encode, List.flatMap_append]

structure Scene.IsSound (p : Location) (keep : Int) (s : Scene) : Prop where
  disk : s.world.disk.IsSound
  exposed : s.world.disk.Exposes p
  logger : ∀ l, s.logger = some l → l.IsAt p keep s.world.disk

theorem Scene.IsSound.of_isAt (hd : w.disk.IsSound) (hl : l.IsAt p keep w.disk) :
    Scene.IsSound p keep ⟨w, some l⟩ := by
  refine ⟨hd, .inr (hl.leadsTo hd).reaches, ?_⟩
  intro l' he
  obtain rfl := Option.some.inj he
  exact hl

theorem Scene.IsSound.of_none (hd : w.disk.IsSound) (hx : w.disk.Exposes p) :
    Scene.IsSound p keep ⟨w, none⟩ := by
  refine ⟨hd, hx, ?_⟩
  intro l he
  cases he

theorem exists_lost_of_kept_eq {e : Disk}
    (h : kept p e (depth keep + 1) = kept p d (depth keep + 1)) :
    ∃ lost, IsDroppable p keep d lost ∧
      kept p d (depth keep + 1) ++ octetsOf [] = lost ++ kept p e (depth keep + 1) := by
  exists []
  constructor
  · exact .inl rfl
  · rw [h]
    exact List.append_nil _

section

variable (hdirect : p.IsDirectTo (depth keep))
include hdirect

theorem turn_kept (h : Turn p keep s lines t) (hs : s.IsSound p keep) :
    t.IsSound p keep ∧ ∃ lost, IsDroppable p keep s.world.disk lost ∧
      kept p s.world.disk (depth keep + 1) ++ octetsOf lines =
        lost ++ kept p t.world.disk (depth keep + 1) := by
  cases h with
  | opened ho hk h =>
    obtain ⟨hd, _, hread, hl⟩ := make_kept hs.disk hs.exposed ho hk h
    exact ⟨.of_isAt hd (hl _ rfl), exists_lost_of_kept_eq (kept_congr _ fun i _ => hread i)⟩
  | unopened ho hk h =>
    obtain ⟨hd, hx, hread, _⟩ := make_kept hs.disk hs.exposed ho hk h
    exact ⟨.of_none hd hx, exists_lost_of_kept_eq (kept_congr _ fun i _ => hread i)⟩
  | @logged w w' l l' level message context line hline h =>
    rw [Logger.log, hline] at h
    obtain ⟨hd, hl', lost, hlost, hk⟩ := Logger.deliver_kept hdirect hs.disk (hs.logger l rfl) h
    refine ⟨.of_isAt hd hl', lost, hlost, ?_⟩
    rw [octetsOf, List.flatMap_singleton]
    exact hk
  | @failed w w' l l' level message context cause h =>
    rw [Logger.log] at h
    split at h
    · obtain ⟨hd, hl', lost, hlost, hk⟩ := Logger.deliver_kept hdirect hs.disk (hs.logger l rfl) h
      exact ⟨.of_isAt hd hl', lost, hlost, hk⟩
    · obtain ⟨rfl, rfl, _⟩ := h
      exact ⟨hs, exists_lost_of_kept_eq rfl⟩
  | @limited w l limit =>
    have hl := hs.logger l rfl
    exact ⟨.of_isAt hs.disk ⟨hl.path, hl.count, hl.handle⟩, exists_lost_of_kept_eq rfl⟩
  | closed => exact ⟨.of_none hs.disk hs.exposed, exists_lost_of_kept_eq rfl⟩
  | elsewhere hd h hx =>
    constructor
    · refine ⟨hd, hx hs.exposed, ?_⟩
      intro l he
      exact (hs.logger l he).congr (h 0 (Nat.zero_le _)).1
    · apply exists_lost_of_kept_eq
      apply kept_congr
      intro i hi
      exact (h i (Nat.le_of_lt_succ hi)).2

theorem run_kept (h : Run p keep s past lines t) (hs : s.IsSound p keep) :
    ∃ lost : List (List UInt8),
      lost.Sublist (past.map (·.read (generation p (depth keep)))) ∧
        kept p s.world.disk (depth keep + 1) ++ octetsOf lines =
          lost.flatten ++ kept p t.world.disk (depth keep + 1) := by
  induction h with
  | done => exact ⟨[], .slnil, List.append_nil _⟩
  | turn h _ ih =>
    obtain ⟨ht, lost, hlost, hk⟩ := turn_kept hdirect h hs
    obtain ⟨more, hmore, hks⟩ := ih ht
    rw [octetsOf_append, ← List.append_assoc, hk, List.append_assoc, hks]
    rcases hlost with rfl | rfl
    · exact ⟨more, hmore.cons _, rfl⟩
    · exact ⟨_ :: more, hmore.cons_cons _, List.append_assoc .. |>.symm⟩

end

/-- After a run, what is found at the names of a log is the end of what was found there before and
of the lines that were logged. In front of it, only whole oldest files are gone. -/
theorem kept_of_run {w : World} (hdirect : p.IsDirectTo (depth keep)) (hd : w.disk.IsSound)
    (hx : w.disk.Exposes p) (h : Run p keep ⟨w, none⟩ past lines t) :
    ∃ lost : List (List UInt8),
      lost.Sublist (past.map (·.read (generation p (depth keep)))) ∧
        kept p w.disk (depth keep + 1) ++ octetsOf lines =
          lost.flatten ++ kept p t.world.disk (depth keep + 1) :=
  run_kept hdirect h (.of_none hd hx)

namespace Trial

def start (d : Disk) : World := ⟨0, [], [], [], d⟩

def options (p : Location) (keep : Int) (megabytes : Value) : LoggerOptions :=
  ⟨"c", "s", .file p, ⟨.bool true, [], []⟩, megabytes, .int keep, .bool false⟩

def opened (p : Location) (keep : Int) (megabytes : Value) (d : Disk) : World :=
  ((options p keep megabytes).make (start d)).1

def logger (p : Location) (keep : Int) (limit : Value) (d : Disk) (id : FileId) : Logger :=
  (options p keep .null).loggerAt limit (start d) (some p) (some (.file id))

theorem make_start {p : Location} {keep : Int} {megabytes limit : Value} {d : Disk} {id : FileId}
    (hlimit : (options p keep megabytes).limit? = some limit)
    (h : (d.openBelow p).2.toOption = some id) :
    (options p keep megabytes).make (start d) =
      (opened p keep megabytes d, .ok (logger p keep limit d id)) := by
  have hmade : ((options p keep megabytes).make (start d)).2 = .ok (logger p keep limit d id) := by
    have hfile : (options p keep megabytes).output = .file p := rfl
    rw [LoggerOptions.make, hlimit, hfile]
    dsimp only
    generalize hb : (start d).disk.openBelow p = answer
    rw [start] at hb
    rw [hb] at h
    obtain ⟨e, cause | file⟩ := answer
    · cases h
    · cases h
      rfl
  exact Prod.ext rfl hmade

def call (l : Logger) (w : World) : World × Logger × Option LogError :=
  l.log .info (.text "m") [] w

def lineOf (l : Logger) (w : World) : Text :=
  (l.line w.now .info (.text "m") []).toOption.getD []

theorem line_of_call {l : Logger} {w : World} (h : (call l w).2.2.isNone) :
    l.line w.now .info (.text "m") [] = .ok (lineOf l w) ∧
      l.log .info (.text "m") [] w = ((call l w).1, (call l w).2.1, none) := by
  have hnone := Option.isNone_iff_eq_none.mp h
  refine ⟨?_, Prod.ext rfl (Prod.ext rfl hnone)⟩
  cases hline : l.line w.now .info (.text "m") [] with
  | error cause =>
    rw [call, Logger.log, hline] at hnone
    cases hnone
  | ok line =>
    rw [lineOf, hline]
    rfl

theorem turn_call {l : Logger} {w : World} (h : (call l w).2.2.isNone) :
    Turn p keep ⟨w, some l⟩ [lineOf l w] ⟨(call l w).1, some (call l w).2.1⟩ := by
  obtain ⟨hline, hlog⟩ := line_of_call h
  exact .logged hline hlog

end Trial

open Trial

namespace Rotated

def path : Location := ⟨.relative, ["a.log"]⟩

def place (name : Text) : Place := [SystemName.encode name]

def disk : Disk :=
  let d := (Disk.empty.create (place "a.1.log")).1.append 0 [1]
  (d.create (place "a.log")).1.append 1 [2]

theorem isSound_disk : disk.IsSound := by
  apply Disk.IsSound.append
  apply Disk.IsSound.create _ rfl rfl rfl
  apply Disk.IsSound.append
  exact Disk.isSound_empty.create rfl rfl rfl

theorem kept_of_rotated : ∃ (line : Text) (t : Scene) (lost : List (List UInt8)),
    Run path 1 ⟨start disk, none⟩ [disk, disk] [line] t ∧
    lost.Sublist [[1], [1]] ∧
    [1, 2] ++ octetsOf [line] = lost.flatten ++ kept path t.world.disk 2 := by
  have hopened : Turn path 1 ⟨start disk, none⟩ []
      ⟨start disk, some (logger path 1 (.int (-1048576)) disk 1)⟩ :=
    .opened (o := options path 1 (.int (-1))) rfl rfl rfl
  have hrun := Run.turn hopened (.turn (turn_call (by decide +kernel)) .done)
  have hdown : Disk.upward ∉ path.names := by decide
  obtain ⟨lost, hlost, hkept⟩ := kept_of_run ((isDirect_of_not_upward hdown).to 1) isSound_disk
    (.inl hdown) hrun
  exact ⟨_, _, lost, hrun, hlost, hkept⟩

end Rotated

def IsNotKept (p : Location) (keep : Int) (w : World) : Prop :=
  w.disk.IsSound ∧ (∀ i node, w.disk.find (generation p i) ≠ .ok (some node)) ∧
  ∃ (past : List Disk) (lines : List Text) (t : Scene), Run p keep ⟨w, none⟩ past lines t ∧
    ¬ ∃ lost : List (List UInt8), lost.Sublist (past.map (·.read (generation p (depth keep)))) ∧
      kept p w.disk (depth keep + 1) ++ octetsOf lines =
        lost.flatten ++ kept p t.world.disk (depth keep + 1)

namespace Unkept

def first (p : Location) (keep : Int) (d : Disk) : World × Logger × Option LogError :=
  call (logger p keep .null d 0) (opened p keep .null d)

def firstLine (p : Location) (keep : Int) (d : Disk) : Text :=
  lineOf (logger p keep .null d 0) (opened p keep .null d)

def second (p : Location) (keep : Int) (d : Disk) : World × Logger × Option LogError :=
  call { (first p keep d).2.1 with limit := .int 1 } (first p keep d).1

section

variable {p : Location} {keep : Int} {d : Disk} (hmake : (d.openBelow p).2.toOption = some 0)
  (hfirst : (first p keep d).2.2.isNone)
include hmake hfirst

theorem run_first {past : List Disk} {lines : List Text} {t : Scene}
    (hrest : Run p keep ⟨(first p keep d).1, some (first p keep d).2.1⟩ past lines t) :
    Run p keep ⟨start d, none⟩ (d :: (opened p keep .null d).disk :: past)
      (firstLine p keep d :: lines) t :=
  .turn (.opened (o := options p keep .null) rfl rfl (make_start rfl hmake))
    (.turn (turn_call hfirst) hrest)

theorem run_second (hsecond : (second p keep d).2.2.isSome) :
    Run p keep ⟨start d, none⟩ [d, (opened p keep .null d).disk, (first p keep d).1.disk,
      (first p keep d).1.disk] [firstLine p keep d]
      ⟨(second p keep d).1, some (second p keep d).2.1⟩ := by
  obtain ⟨cause, hcause⟩ := Option.isSome_iff_exists.mp hsecond
  apply run_first hmake hfirst
  exact .turn (.limited (.int 1)) (.turn (.failed (Prod.ext rfl (Prod.ext rfl hcause))) .done)

end

def detour : Location := ⟨.relative, ["x.1.log", "..", "x.log"]⟩

/-- A file can be hidden behind a missing directory until the log file is opened, and a rotation can
move a directory away that the way to the log file leads through. -/
theorem not_kept_beyond_ways :
    IsNotKept Hidden.path 1 (start Hidden.disk) ∧ IsNotKept detour 2 (start .empty) := by
  constructor
  · have hrun := @run_first Hidden.path 1 Hidden.disk (by decide +kernel) (by decide +kernel)
      _ _ _ .done
    refine ⟨Hidden.isSound_disk, Hidden.not_found, _, _, _, hrun, ?_⟩
    rintro ⟨lost, _, hkept⟩
    have hmore : (kept Hidden.path (start Hidden.disk).disk (depth 1 + 1)).length +
        (octetsOf [firstLine Hidden.path 1 Hidden.disk]).length <
          (kept Hidden.path (first Hidden.path 1 Hidden.disk).1.disk (depth 1 + 1)).length := by
      decide +kernel
    have hlength := congrArg List.length hkept
    rw [List.length_append, List.length_append] at hlength
    dsimp only at hlength
    omega
  · have hrun := @run_second detour 2 .empty (by decide +kernel) (by decide +kernel)
      (by decide +kernel)
    refine ⟨Disk.isSound_empty, not_found_of_misses ⟨rfl, by decide⟩ rfl (.inl rfl), _, _, _, hrun,
      ?_⟩
    rintro ⟨lost, hlost, hkept⟩
    have holdest : ∀ d ∈ [Disk.empty, (opened detour 2 .null .empty).disk,
        (first detour 2 .empty).1.disk, (first detour 2 .empty).1.disk],
        d.read (generation detour (depth 2)) = [] := by
      decide +kernel
    have hlost : lost.flatten = [] := by
      rw [List.flatten_eq_nil_iff]
      intro octets hm
      obtain ⟨d, hd, rfl⟩ := List.mem_map.mp (hlost.subset hm)
      exact holdest d hd
    have hnone : kept detour (second detour 2 .empty).1.disk (depth 2 + 1) = [] := by
      decide +kernel
    have hline : octetsOf [firstLine detour 2 .empty] ≠ [] := by
      decide +kernel
    dsimp only at hkept
    rw [hlost, hnone] at hkept
    exact hline (List.append_eq_nil_iff.mp hkept).2

end Unkept

end Retention

end DriveBridge
