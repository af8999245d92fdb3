import DriveBridge.Proofs.Log.Drift
import DriveBridge.Proofs.Log.Interleaving

/-!
Loggers that share a log file. A rotation by one of them moves the file that the others have open,
and each of these goes on writing to it, one generation further behind with every rotation, until
it rotates itself. So a line is kept as long as the file is that its logger has open.
-/

namespace DriveBridge

open Location Rotation Interleaving

namespace Sharing

variable {p : Location} {keep : Int} {d e : Disk} {id : FileId} {a : Nat}

def IsMadeAt (p : Location) (keep : Int) (o : LoggerOptions) : Prop :=
  o.output = .file p ∧ o.maxFiles.integer? = some keep

def Spared (p : Location) (keep : Int) (d e : Disk) : Prop :=
  d.contents.length ≤ e.contents.length ∧ Retention.Untouched p keep d e

def isCurrent (p : Location) (i : Nat) (s : Scene) : Bool :=
  match s.loggers[i]? with
  | some l => match l.sink with
    | some (.file id) => s.world.disk.find p = .ok (some (.file id))
    | _ => false
  | none => false

/-- How many times another file has been found as the log file since a logger last had the one
found there open. -/
def age (p : Location) (i : Nat) : (past : List Scene) → (current : Scene) → Nat
  | [], _ => 0
  | s :: past, t =>
    if isCurrent p i t then 0
    else if t.world.disk.find p = s.world.disk.find p then age p i past s
    else age p i past s + 1

structure IsAged (p : Location) (keep : Int) (d : Disk) (id : FileId) (a : Nat) : Prop where
  held : id < d.contents.length
  row : ∀ g ≤ depth keep, g ≤ a → HasRow p d g
  only : ∀ g ≤ depth keep, d.find (generation p g) = .ok (some (.file id)) ↔ g = a

section

variable (hp : IsName p.fileName)
include hp

theorem IsAged.of_current (hd : d.IsSound) (h : d.find p = .ok (some (.file id))) :
    IsAged p keep d id 0 := by
  refine ⟨hd.held (Disk.locate_of_find_some h).2, ?_, ?_⟩
  · intro g _ hg
    exact (hasRow_zero h).mono hg
  · intro g _
    constructor
    · intro hg
      exact find_generation_injective (j := 0) hp hd hg h
    · rintro rfl
      exact h

theorem IsAged.kept (ha : IsAged p keep d id a) (he : e.IsSound) (h : KeepsRow p keep d e) :
    IsAged p keep e id a := by
  have hsame (g : Nat) (hg : g ≤ depth keep) (hga : g ≤ a) :
      e.find (generation p g) = d.find (generation p g) := h.row g hg (ha.row g hg hga)
  refine ⟨Nat.lt_of_lt_of_le ha.held h.numbers, ?_, ?_⟩
  · intro g hg hga j hj
    rw [hsame j (by omega) (by omega)]
    exact ha.row g hg hga j hj
  · intro g hg
    by_cases hga : g ≤ a
    · rw [hsame g hg hga]
      exact ha.only g hg
    · -- The file is where it was, and so it is nowhere else.
      have hfound : e.find (generation p a) = .ok (some (.file id)) := by
        rw [hsame a (by omega) (Nat.le_refl a)]
        exact (ha.only a (by omega)).mpr rfl
      constructor
      · intro hg
        exact find_generation_injective hp he hg hfound
      · intro hga
        omega

theorem IsAged.shifted (ha : IsAged p keep d id a) (he : e.IsSound) (h : ShiftsRow p keep d e) :
    IsAged p keep e id (a + 1) := by
  have hmoved (g : Nat) (hg : g + 1 ≤ depth keep) (hga : g ≤ a) :
      e.find (generation p (g + 1)) = d.find (generation p g) :=
    h.row g (by omega) (ha.row g (by omega) hga)
  refine ⟨Nat.lt_of_lt_of_le ha.held h.numbers, ?_, ?_⟩
  · intro g hg hga j hj
    cases j with
    | zero => exact ⟨_, h.log⟩
    | succ j =>
      rw [hmoved j (by omega) (by omega)]
      exact ha.row j (by omega) (by omega) j (Nat.le_refl j)
  · intro g hg
    by_cases hga : g ≤ a + 1
    · cases g with
      | zero =>
        have hnew : d.contents.length ≠ id := Nat.ne_of_gt ha.held
        rw [generation, h.log]
        simp [hnew]
      | succ g =>
        rw [hmoved g hg (by omega), ha.only g (by omega), Nat.add_right_cancel_iff]
    · have hfound : e.find (generation p (a + 1)) = .ok (some (.file id)) := by
        rw [hmoved a (by omega) (Nat.le_refl a)]
        exact (ha.only a (by omega)).mpr rfl
      constructor
      · intro hg
        exact find_generation_injective hp he hg hfound
      · intro hga
        omega

end

theorem IsAged.drifted (hp : IsName p.fileName) (ha : IsAged p keep d id a) (hd : d.IsSound)
    (he : e.IsSound) (hfile : HasRow p d 0) (h : Drifts p keep d e) :
    IsAged p keep e id (if e.find p = d.find p then a else a + 1) := by
  rcases h with h | h
  · have hsame : e.find p = d.find p := h.row 0 (Nat.zero_le _) hfile
    rw [if_pos hsame]
    exact ha.kept hp he h
  · have hne : e.find p ≠ d.find p := by
      obtain ⟨old, hold⟩ : ∃ old, d.find p = .ok (some (.file old)) := hfile 0 (Nat.le_refl 0)
      have hheld := hd.held (Disk.locate_of_find_some hold).2
      rw [h.log, hold]
      intro hsame
      cases hsame
      exact Nat.lt_irrefl _ hheld
    rw [if_neg hne]
    exact ha.shifted hp he h

variable {past : List Scene} {s t : Scene} {i : Nat} {l l' : Logger}

theorem isCurrent_iff (hl : t.loggers[i]? = some l) (hs : l.sink = some (.file id)) :
    isCurrent p i t ↔ t.world.disk.find p = .ok (some (.file id)) := by
  rw [isCurrent, hl]
  dsimp only
  rw [hs]
  exact decide_eq_true_iff

theorem age_of_current (h : isCurrent p i t) : age p i past t = 0 := by
  cases past with
  | nil => rfl
  | cons s past => rw [age, if_pos h]

theorem age_of_not_current (h : ¬ isCurrent p i t) : age p i (s :: past) t =
    if t.world.disk.find p = s.world.disk.find p then age p i past s
    else age p i past s + 1 := by
  rw [age, if_neg h]

structure IsShared (p : Location) (keep : Int) (past : List Scene) (s : Scene) : Prop where
  file : s.loggers ≠ [] → HasRow p s.world.disk 0
  noStream : ∀ l ∈ s.loggers, ∀ name, l.sink ≠ some (.stream name)
  handles : ∀ i l id, s.loggers[i]? = some l → l.sink = some (.file id) →
    IsAged p keep s.world.disk id (age p i past s)

def KeepsHandles (p : Location) (d : Disk) (before after : List Logger) : Prop :=
  ∀ (i : Nat) (l : Logger), after[i]? = some l →
    (∃ m, before[i]? = some m ∧ l.sink = m.sink) ∨ IsFresh p d l.sink

theorem KeepsHandles.refl (ls : List Logger) : KeepsHandles p d ls ls :=
  fun _ l hl => .inl ⟨l, hl, rfl⟩

theorem KeepsHandles.concat (ls : List Logger) (hnew : IsFresh p d l.sink) :
    KeepsHandles p d ls (ls ++ [l]) := by
  intro i m hm
  rw [List.getElem?_append] at hm
  split at hm
  · exact .inl ⟨m, hm, rfl⟩
  · obtain rfl := List.mem_singleton.mp (List.mem_of_getElem? hm)
    exact .inr hnew

theorem KeepsHandles.set {ls : List Logger} (hl : ls[i]? = some l)
    (hnew : l'.sink = l.sink ∨ IsFresh p d l'.sink) : KeepsHandles p d ls (ls.set i l') := by
  intro j m hm
  rw [List.getElem?_set] at hm
  split at hm
  · rename_i hij
    split at hm
    · obtain rfl := Option.some.inj hm
      exact hnew.imp_left fun hsame => ⟨l, hij ▸ hl, hsame⟩
    · cases hm
  · exact .inl ⟨m, hm, rfl⟩

theorem find_of_isFresh {sink : Option Sink} (h : IsFresh p d sink) (hrow : HasRow p d 0)
    (hid : sink = some (.file id)) : d.find p = .ok (some (.file id)) := by
  obtain ⟨file, hf⟩ : ∃ file, d.find p = .ok (some (.file file)) := hrow 0 (Nat.le_refl 0)
  have ha := (Disk.locate_of_find_some hf).2
  rw [h.at? hid] at ha
  cases ha
  exact hf

theorem IsShared.next (hs : IsShared p keep past s) (hp : t.loggers ≠ [] → IsName p.fileName)
    (hd : s.world.disk.IsSound) (he : t.world.disk.IsSound)
    (hdrift : Drifts p keep s.world.disk t.world.disk)
    (hfile : t.loggers ≠ [] → HasRow p t.world.disk 0)
    (hhandles : KeepsHandles p t.world.disk s.loggers t.loggers) :
    IsShared p keep (s :: past) t := by
  refine ⟨hfile, ?_, ?_⟩
  · intro l hm name hname
    obtain ⟨i, hl⟩ := List.getElem?_of_mem hm
    rcases hhandles i l hl with ⟨m, hm, hsame⟩ | hn | hn | ⟨id, hn, _⟩
    · exact hs.noStream m (List.mem_of_getElem? hm) name (hsame ▸ hname)
    all_goals
      rw [hname] at hn
      cases hn
  · intro i l id hl hid
    have hne := List.ne_nil_of_mem (List.mem_of_getElem? hl)
    have hp := hp hne
    by_cases hc : isCurrent p i t
    · rw [age_of_current hc]
      exact .of_current hp he ((isCurrent_iff hl hid).mp hc)
    rw [age_of_not_current hc]
    rcases hhandles i l hl with ⟨m, hm, hsame⟩ | hfresh
    · have hrow := hs.file (List.ne_nil_of_mem (List.mem_of_getElem? hm))
      exact (hs.handles i m id hm (hsame ▸ hid)).drifted hp hd he hrow hdrift
    · exact absurd ((isCurrent_iff hl hid).mpr (find_of_isFresh hfresh (hfile hne) hid)) hc

abbrev Shared (p : Location) (keep : Int) : List Scene → Scene → Prop :=
  Run (IsMadeAt p keep) (Spared p keep)

theorem Spared.keepsRow (h : Spared p keep d e) : KeepsRow p keep d e :=
  ⟨h.1, fun g hg _ => (h.2 g hg).1⟩

theorem made_at {w w' : World} {o : LoggerOptions} (ho : IsMadeAt p keep o)
    (h : o.make w = (w', .ok l)) : l.IsAt p keep w'.disk := by
  rcases LoggerOptions.make_cases h with ⟨_, hl⟩ | ⟨q, opened, hq, hb, hl⟩
  · exact absurd ho.1 ((hl l rfl).2 p)
  · obtain rfl := Output.file.inj (ho.1.symm.trans hq)
    obtain ⟨id, rfl, hpath, hsink, hkeep⟩ := hl l rfl
    have hf := Disk.find_of_openFile (Disk.openFile_of_openBelow hb)
    exact ⟨hpath, hkeep ▸ ho.2, id, hsink, hf⟩

theorem settings_of_shared (h : Shared p keep past s) :
    ∀ l ∈ s.loggers, l.path = some p ∧ l.keep.integer? = some keep := by
  refine h.forall_loggers (P := fun l => l.path = some p ∧ l.keep.integer? = some keep) ?_ ?_
  · intro o w w' l ho hmake
    have hl := made_at ho hmake
    exact ⟨hl.path, hl.count⟩
  · exact fun _ _ hl => hl

theorem isName_of_shared (h : Shared p keep past s) (hne : s.loggers ≠ []) :
    IsName p.fileName := by
  obtain ⟨l, hl⟩ := List.exists_mem_of_ne_nil _ hne
  exact h.isSound.2 l hl p (settings_of_shared h l hl).1

section

variable (hdirect : p.IsDirectTo (depth keep))
include hdirect

theorem isShared_turn (hr : Shared p keep past s) (hs : IsShared p keep past s)
    (h : Turn (IsMadeAt p keep) (Spared p keep) s t) : IsShared p keep (s :: past) t := by
  have hr' : Shared p keep (s :: past) t := hr.turn h
  have hd := hr.isSound.1
  have he := hr'.isSound.1
  have hname := isName_of_shared hr'
  cases h with
  | @opened w w' ls o l ho h =>
    obtain ⟨id, hid, hf⟩ := (made_at ho h).handle
    have hfresh : IsFresh p w'.disk l.sink := .inr (.inr ⟨id, hid, (Disk.locate_of_find_some hf).2⟩)
    exact hs.next hname hd he (.inl (keepsRow_of_keepsNodes (keepsNodes_make hd h)))
      (fun _ => hasRow_zero hf) (.concat ls hfresh)
  | @unopened w w' ls o cause ho h =>
    have hdrift : Drifts p keep w.disk w'.disk :=
      .inl (keepsRow_of_keepsNodes (keepsNodes_make hd h))
    exact hs.next hname hd he hdrift (fun hne => hdrift.hasRow (hs.file hne)) (.refl ls)
  | @called w w' ls i l l' level message context failure hl h =>
    have hm := List.mem_of_getElem? hl
    have hrow := hs.file (List.ne_nil_of_mem hm)
    obtain ⟨hpath, hkeep⟩ := settings_of_shared hr l hm
    have hp := isName_of_shared hr (List.ne_nil_of_mem hm)
    have hdrift := log_drifts hpath hkeep hdirect hd hrow h
    have hsink := (log_sink hp hpath hd h).imp_left And.right
    exact hs.next hname hd he hdrift (fun _ => hdrift.hasRow hrow) (.set hl hsink)
  | @limited w ls i l hl limit =>
    have hrow := hs.file (List.ne_nil_of_mem (List.mem_of_getElem? hl))
    exact hs.next hname hd he (.inl (.refl p keep w.disk)) (fun _ => hrow) (.set hl (.inl rfl))
  | @closed w ls i l hl =>
    have hrow := hs.file (List.ne_nil_of_mem (List.mem_of_getElem? hl))
    exact hs.next hname hd he (.inl (.refl p keep w.disk)) (fun _ => hrow)
      (.set hl (.inr (.inl rfl)))
  | @elsewhere w w' ls hd' h =>
    have hdrift : Drifts p keep w.disk w'.disk := .inl h.keepsRow
    exact hs.next hname hd he hdrift (fun hne => hdrift.hasRow (hs.file hne)) (.refl ls)

theorem isShared_run (h : Shared p keep past s) : IsShared p keep past s := by
  induction h with
  | start hd =>
    refine ⟨fun hne => absurd rfl hne, ?_, ?_⟩
    · intro l hm
      cases hm
    · intro i l id hl
      cases hl
  | turn hr h ih => exact isShared_turn hdirect hr ih h

end

variable {w' : World} {level : Level} {message : Value} {context : List (Value × Value)}

/-- A call that succeeds writes its line to the file that its logger has open then, and that is in
the generation of its age or, with an age beyond the generations that are kept, in none. -/
theorem line_in_generation (hdirect : p.IsDirectTo (depth keep)) (h : Shared p keep past s)
    (hl : s.loggers[i]? = some l) (hopen : l.sink.isSome)
    (hlog : l.log level message context s.world = (w', l', none)) :
    ∃ line id, l.line s.world.now level message context = .ok line ∧
      l'.sink = some (.file id) ∧ w'.disk.content id =
        s.world.disk.content id ++ Utf8.encode (line ++ [CodePoint.newline]) ∧
      ∀ g ≤ depth keep, w'.disk.find (generation p g) = .ok (some (.file id)) ↔
        g = age p i (s :: past) ⟨w', s.loggers.set i l'⟩ := by
  have hnext := isShared_run hdirect (h.turn (.called hl hlog))
  obtain ⟨line, hline, hdeliver⟩ := Logger.exists_line_of_log hlog
  rcases Logger.deliver_cases hdeliver with ⟨_, _, hnone⟩ | ⟨d, room, hm, hput⟩
  · rw [hnone] at hopen
    cases hopen
  have hl' : (s.loggers.set i l')[i]? = some l' :=
    List.getElem?_set_self (List.getElem?_eq_some_iff.mp hl).1
  have hstill : l'.sink ≠ none := by
    intro hnone
    rcases Logger.sink_makeRoom hm with hsink | hsink | ⟨_, id, hsink⟩
    · rw [← hsink, hnone] at hopen
      cases hopen
    all_goals
      rw [hnone] at hsink
      cases hsink
  rcases hput with ⟨_, hfailed | hnone | ⟨name, hstream⟩⟩ | ⟨id, hid, _, hw⟩
  · cases hfailed
  · exact absurd hnone hstill
  · exact absurd hstream (hnext.noStream l' (List.mem_of_getElem? hl') name)
  · have haged := hnext.handles i l' id hl' hid
    have hheld : id < d.contents.length := by
      have := haged.held
      rw [hw] at this
      rwa [Disk.append, List.length_modify] at this
    refine ⟨line, id, hline, hid, ?_, haged.only⟩
    rw [hw, Disk.content_append _ _ _ hheld, if_pos rfl, Logger.content_makeRoom hm]

namespace Alternating

def path : Location := ⟨.relative, ["a.log"]⟩

def options (megabytes : Value) : LoggerOptions :=
  ⟨"c", "s", .file path, ⟨.bool true, [], []⟩, megabytes, .int 1, .bool false⟩

def start : World := ⟨0, [], [], [], .empty⟩

def opened : World := { start with disk := (Disk.empty.create [SystemName.encode "a.log"]).1 }

def rotating : Logger := (options (.int (-1))).loggerAt (.int (-1048576)) start path (some (.file 0))

def patient : Logger := (options .null).loggerAt .null opened path (some (.file 0))

def call : World × Logger × Option LogError := rotating.log .info (.text "m") [] opened

def rotated : Scene := ⟨call.1, [call.2.1, patient]⟩

theorem line_behind : ∃ w' l' line id,
    patient.log .info (.text "m") [] rotated.world = (w', l', none) ∧
    patient.line 0 .info (.text "m") [] = .ok line ∧
    w'.disk.content id = rotated.world.disk.content id ++
      Utf8.encode (line ++ [CodePoint.newline]) ∧
    w'.disk.find (generation path 1) = .ok (some (.file id)) := by
  have hfirst : Turn (IsMadeAt path 1) (Spared path 1) ⟨start, []⟩ ⟨opened, [rotating]⟩ :=
    .opened (o := options (.int (-1))) ⟨rfl, rfl⟩ rfl
  have hsecond : Turn (IsMadeAt path 1) (Spared path 1) ⟨opened, [rotating]⟩
      ⟨opened, [rotating, patient]⟩ := .opened (o := options .null) ⟨rfl, rfl⟩ rfl
  have hlog : rotating.log .info (.text "m") [] opened = (call.1, call.2.1, call.2.2) := rfl
  have hcalled : Turn (IsMadeAt path 1) (Spared path 1) ⟨opened, [rotating, patient]⟩ rotated :=
    .called (i := 0) rfl hlog
  have hrun := (((Run.start Disk.isSound_empty).turn hfirst).turn hsecond).turn hcalled
  have hlast : (patient.log .info (.text "m") [] rotated.world).2.2 = none := by
    apply Option.isNone_iff_eq_none.mp
    decide +kernel
  have hdirect : path.IsDirectTo (depth 1) := (isDirect_of_not_upward (by decide)).to 1
  obtain ⟨line, id, hline, hsink, hcontent, hplace⟩ :=
    line_in_generation (i := 1) hdirect hrun rfl rfl (Prod.ext rfl (Prod.ext rfl hlast))
  refine ⟨_, _, line, id, Prod.ext rfl (Prod.ext rfl hlast), hline, hcontent, ?_⟩
  apply (hplace 1 (by decide)).mpr
  decide +kernel

end Alternating

namespace Overtaken

def options (file : Text) (keep : Int) (component : Text) : LoggerOptions :=
  ⟨component, "s", .file (.ofText file), .make (.bool true) [], .null, .int keep, .bool false⟩

def steps (file : Text) (keep : Int) : List Step :=
  [.openLogger "a" (options file keep "a"), .openLogger "b" (options file keep "b"),
    .setLimit "a" (.int 200), .setLimit "b" (.int 200)] ++
    List.replicate 5 (.log "a" .info (.text "m") [])

def before (file : Text) (keep : Int) : Session :=
  (Session.start 0 [] ⟨[]⟩).advance (steps file keep)

def call : Step := .log "b" .info (.text "m") []

def after (file : Text) (keep : Int) : Session := ((before file keep).step call).1

structure Loses (file : Text) (keep : Int) : Prop where
  settings : ∀ l ∈ (before file keep).loggers, l.path = some (.ofText file) ∧
    l.limit.integer? = some 200 ∧ l.keep.integer? = some keep
  answered : ∃ answer, ((before file keep).step call).2 = .ok answer
  lost : ∃ id l line, (before file keep).logger? "b" = some (id, l) ∧
    l.line (before file keep).world.now .info (.text "m") [] = .ok line ∧
    ∀ g ≤ depth keep,
      ¬ Utf8.encode line <:+: (after file keep).world.disk.read (generation (.ofText file) g)

def letter : UInt8 := 98

theorem loses_of_letter {file : Text} {keep : Int}
    (hsettings : ∀ l ∈ (before file keep).loggers, l.path = some (.ofText file) ∧
      l.limit.integer? = some 200 ∧ l.keep.integer? = some keep)
    (hanswer : ((before file keep).step call).2.toOption.isSome)
    (hline : ((before file keep).logger? "b").any fun found =>
      (found.2.line (before file keep).world.now .info (.text "m") []).toOption.any fun line =>
        letter ∈ Utf8.encode line)
    (hfiles : ∀ g ≤ depth keep,
      letter ∉ (after file keep).world.disk.read (generation (.ofText file) g)) :
    Loses file keep := by
  refine ⟨hsettings, ?_, ?_⟩
  · cases hstep : ((before file keep).step call).2 with
    | ok answer => exact ⟨answer, rfl⟩
    | error cause =>
      rw [hstep] at hanswer
      cases hanswer
  · cases hfound : (before file keep).logger? "b" with
    | none =>
      rw [hfound] at hline
      cases hline
    | some found =>
      obtain ⟨id, l⟩ := found
      rw [hfound, Option.any_some] at hline
      cases hentry : l.line (before file keep).world.now .info (.text "m") [] with
      | error cause =>
        rw [hentry] at hline
        cases hline
      | ok line =>
        rw [hentry] at hline
        refine ⟨id, l, line, rfl, hentry, ?_⟩
        intro g hg hwithin
        exact hfiles g hg (hwithin.subset (of_decide_eq_true hline))

/-- While one logger rotates twice, the file that the other one has open comes to the end of the
one rotated file and is overwritten. Where the way to the log file leads through a rotated name, one
rotation moves it away. -/
theorem line_lost : Loses "a.log" 1 ∧ Loses "x.1.log/../x.log" 2 := by
  constructor
  · apply loses_of_letter
    all_goals decide +kernel
  · apply loses_of_letter
    all_goals decide +kernel

end Overtaken

end Sharing

end DriveBridge
