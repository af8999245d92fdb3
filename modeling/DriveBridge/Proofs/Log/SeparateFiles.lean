import DriveBridge.Proofs.Log.Drift
import DriveBridge.Proofs.Log.FileNames
import DriveBridge.Proofs.Log.Interleaving
import DriveBridge.Session.Run

namespace DriveBridge

open Location Rotation Interleaving

namespace Logger

def generations (l : Logger) : Nat := (l.keep.integer?.map depth).getD 0

def Spares (l : Logger) (p : Location) (place : Place) : Prop :=
  ∀ g ≤ l.generations, ¬ (generation p g).place <+: place

variable {l l' : Logger} {p : Location} {place : Place} {d e : Disk} {w w' : World}

theorem at?_makeRoom (hpath : l.path = some p) (hp : IsName p.fileName) (hs : l.Spares p place)
    {failure : Option LogError} (h : l.makeRoom d = (e, l', failure)) :
    e.at? place = d.at? place := by
  rcases makeRoom_cases h with ⟨rfl, _⟩ | ⟨q, keep, _, hq, hkeep, _, h⟩
  · rfl
  obtain rfl : p = q := Option.some.inj (hpath.symm.trans hq)
  have hspares : Rotation.Spares p keep place := by
    rwa [Spares, generations, hkeep] at hs
  have hrotated : (rotate p keep d).1.at? place = d.at? place := at?_rotate_of_spares hp hspares
  rcases h with ⟨id, ho, _⟩ | ⟨_, _, rfl, _⟩
  · have hne : place ≠ p.place := fun he => hs 0 (Nat.zero_le _) (he ▸ List.prefix_refl _)
    obtain ⟨_, ⟨_, rfl⟩ | ⟨hn, rfl, _⟩⟩ := Disk.openFile_eq_ok ho
    · exact hrotated
    · rw [Disk.at?_create (Disk.isEnclosing_of_absent hn), if_neg hne, hrotated]
  · exact hrotated

variable {level : Level} {message : Value} {context : List (Value × Value)}
  {failure : Option LogError}

theorem at?_log (hpath : l.path = some p) (hp : IsName p.fileName) (hs : l.Spares p place)
    (h : l.log level message context w = (w', l', failure)) :
    w'.disk.at? place = w.disk.at? place := by
  rcases log_cases h with ⟨hw, _⟩ | ⟨d, room, hm, hw | ⟨id, octets, _, hw⟩⟩
  · rw [hw]
  · rw [hw, at?_makeRoom hpath hp hs hm]
  · rw [hw, Disk.at?_append, at?_makeRoom hpath hp hs hm]

theorem octetsAt_log (hd : w.disk.IsSound) (hpath : l.path = some p) (hp : IsName p.fileName)
    (hf : IsFresh p w.disk l.sink) (hs : l.Spares p place)
    (h : l.log level message context w = (w', l', failure)) :
    w'.disk.octetsAt place = w.disk.octetsAt place := by
  rcases log_cases h with ⟨hw, _⟩ | ⟨d, room, hm, hw⟩
  · rw [hw]
  have hroom : d.octetsAt place = w.disk.octetsAt place :=
    Disk.octetsAt_congr (at?_makeRoom hpath hp hs hm) fun id _ => content_makeRoom hm id
  rcases hw with hw | ⟨id, octets, hid, hw⟩
  · rw [hw, hroom]
  · have hnamed : l.IsNamed := by
      intro q hq
      obtain rfl := Option.some.inj (hpath.symm.trans hq)
      exact hp
    have hsound := (makeRoom_isSound hd hnamed hm).1
    have hplace : d.at? p.place = some (.file id) := by
      rcases makeRoom_sink hp hpath hd hm with ⟨rfl, hsame⟩ | hfresh
      · exact hf.at? (hsame ▸ hid)
      · exact hfresh.at? hid
    have hne : place ≠ p.place := fun he => hs 0 (Nat.zero_le _) (he ▸ List.prefix_refl _)
    rw [hw, Disk.octetsAt_append hsound hplace, if_neg hne, hroom]

end Logger

namespace Separation

open CodePoint LoggerRequest

variable {directory : Text} {past : List Scene} {s t : Scene} {l m : Logger} {p q : Location}
  {d e : Disk} {w w' : World}

def IsMadeIn (directory : Text) (o : LoggerOptions) : Prop :=
  ∃ (r : LoggerRequest) (c : Configuration) (session : Text), o = r.complete c ∧
    (r.directory <|> c.logDirectory) = some directory ∧ r.session = some session ∧
    session ≠ [] ∧ slash ∉ session ∧ slash ∉ r.component

def SparesEntries (directory : Text) (d e : Disk) : Prop :=
  ∀ name, e.at? ((ofText directory).place ++ [name]) = d.at? ((ofText directory).place ++ [name])

abbrev Separate (directory : Text) : List Scene → Scene → Prop :=
  Run (IsMadeIn directory) (SparesEntries directory)

def KeepsOff (l m : Logger) : Prop :=
  ∀ g ≤ l.generations, SystemName.encode (stem l.component l.session g) ≠
    SystemName.encode (stem m.component m.session 0)

def SparesWay (directory : Text) (l : Logger) : Prop :=
  ∀ n ≤ (ofText directory).names.length,
    l.Spares (fileIn directory l.component (some l.session))
      (Place.along [] ((ofText directory).names.take n))

structure AreApart (directory : Text) (ls : List Logger) : Prop where
  names : ∀ {i j : Nat} {l m : Logger}, i ≠ j → ls[i]? = some l → ls[j]? = some m → KeepsOff l m
  way : ∀ l ∈ ls, SparesWay directory l

theorem areApart_pair (hlm : KeepsOff l m) (hml : KeepsOff m l) (hl : SparesWay directory l)
    (hm : SparesWay directory m) : AreApart directory [l, m] := by
  constructor
  · intro i j a b hij ha hb
    have hi := (List.getElem?_eq_some_iff.mp ha).1
    have hj := (List.getElem?_eq_some_iff.mp hb).1
    simp only [List.length_cons, List.length_nil] at hi hj
    rcases (show i = 0 ∧ j = 1 ∨ i = 1 ∧ j = 0 by omega) with ⟨rfl, rfl⟩ | ⟨rfl, rfl⟩
    · cases ha
      cases hb
      exact hlm
    · cases ha
      cases hb
      exact hml
  · intro a ha
    rcases List.mem_pair.mp ha with rfl | rfl
    · exact hl
    · exact hm

structure IsLoggerIn (directory : Text) (l : Logger) : Prop where
  component : slash ∉ l.component
  session : slash ∉ l.session
  named : l.session ≠ []
  path : l.path =
    if directory = [] then none else some (fileIn directory l.component (some l.session))

theorem AreApart.before {Made : LoggerOptions → Prop} {Else : Disk → Disk → Prop}
    (h : Turn Made Else s t) (ht : AreApart directory t.loggers) : AreApart directory s.loggers := by
  constructor
  · intro i j l m hij hl hm
    obtain ⟨_, _, hl'⟩ := h.exists_later hl
    obtain ⟨_, _, hm'⟩ := h.exists_later hm
    have hoff := ht.names hij hl' hm'
    exact hoff
  · intro l hl
    obtain ⟨i, hl⟩ := List.getElem?_of_mem hl
    obtain ⟨_, _, hl'⟩ := h.exists_later hl
    have hway := ht.way _ (List.mem_of_getElem? hl')
    exact hway

theorem exists_loggerAt_of_make {o : LoggerOptions} (h : o.make w = (w', .ok l)) :
    ∃ limit path sink, l = o.loggerAt limit w path sink := by
  rw [LoggerOptions.make] at h
  split at h
  · cases h
  · cases h
    exact ⟨_, _, _, rfl⟩
  · cases h
    exact ⟨_, _, _, rfl⟩
  · split at h
    · cases h
      exact ⟨_, _, _, rfl⟩
    · cases h

theorem isLoggerIn_make {o : LoggerOptions} (ho : IsMadeIn directory o)
    (h : o.make w = (w', .ok l)) : IsLoggerIn directory l := by
  obtain ⟨r, c, session, rfl, hdirectory, hsession, hne, hs, hc⟩ := ho
  obtain ⟨limit, path, sink, hl⟩ := exists_loggerAt_of_make h
  have hnamed : (r.complete c).namedSession = some session := by
    rw [LoggerOptions.namedSession, complete, hsession, Option.filter_some,
      if_pos (by simpa using hne)]
  have hlsession : l.session = session := by
    rw [hl, LoggerOptions.loggerAt, hnamed, Option.getD_some]
  have hlcomponent : l.component = r.component := by
    rw [hl]
    rfl
  have houtput : (r.complete c).output = if directory = [] then .none
      else .file (fileIn directory l.component (some l.session)) := by
    rw [complete, output, hdirectory, hlsession, hlcomponent, ← hsession]
  refine ⟨hlcomponent ▸ hc, hlsession ▸ hs, hlsession ▸ hne, ?_⟩
  split at houtput
  · rename_i hempty
    rw [if_pos hempty]
    rcases LoggerOptions.make_cases h with ⟨_, hmade⟩ | ⟨p, _, hp, _, _⟩
    · exact (hmade l rfl).1
    · rw [houtput] at hp
      cases hp
  · rename_i hempty
    rw [if_neg hempty]
    rcases LoggerOptions.make_cases h with ⟨_, hmade⟩ | ⟨p, _, hp, _, hmade⟩
    · exact absurd houtput ((hmade l rfl).2 _)
    · obtain ⟨_, _, hpath, _⟩ := hmade l rfl
      rw [hpath, Output.file.inj (houtput.symm.trans hp)]

theorem isLoggerIn_run (h : Separate directory past s) : ∀ l ∈ s.loggers, IsLoggerIn directory l := by
  refine h.forall_loggers (P := IsLoggerIn directory) isLoggerIn_make ?_
  intro l limit sink hl
  exact ⟨hl.component, hl.session, hl.named, hl.path⟩

section

variable (hl : IsLoggerIn directory l) (hp : l.path = some p)
include hl hp

theorem IsLoggerIn.path_eq : p = fileIn directory l.component (some l.session) := by
  have hpath := hl.path
  split at hpath
  · rw [hpath] at hp
    cases hp
  · exact Option.some.inj (hp.symm.trans hpath)

theorem IsLoggerIn.isName : IsName p.fileName := by
  rw [hl.path_eq hp]
  exact isName_fileIn directory hl.component hl.session hl.named

theorem IsLoggerIn.place_generation (g : Nat) : (generation p g).place =
    (ofText directory).place ++
      [SystemName.encode (stem l.component l.session g ++ Text.ofString ".jsonl")] := by
  rw [hl.path_eq hp]
  exact place_generation_fileIn directory hl.component hl.session hl.named g

theorem IsLoggerIn.exists_path (hm : IsLoggerIn directory m) : ∃ q, m.path = some q := by
  have hpath := hl.path
  split at hpath
  · rw [hpath] at hp
    cases hp
  · rename_i hne
    exact ⟨_, by rw [hm.path, if_neg hne]⟩

theorem IsLoggerIn.spares (hm : IsLoggerIn directory m) (hq : m.path = some q)
    (hoff : KeepsOff l m) : l.Spares p q.place := by
  intro g hg hbelow
  have hplace : q.place = _ := hm.place_generation hq 0
  rw [hl.place_generation hp, hplace, List.prefix_append_right_inj] at hbelow
  have hname := List.singleton_inj.mp (hbelow.eq_of_length rfl)
  rw [SystemName.encode_append, SystemName.encode_append, List.append_left_inj] at hname
  exact hoff g hg hname

theorem IsLoggerIn.spares_way (hm : IsLoggerIn directory m) (hq : m.path = some q)
    (hoff : KeepsOff l m) (hway : SparesWay directory l) {n : Nat} (hn : n ≤ q.names.length) :
    l.Spares p (Place.along [] (q.names.take n)) := by
  by_cases hlast : n = q.names.length
  · rw [hlast, List.take_length]
    exact hl.spares hp hm hq hoff
  · have hnames : q.names = (ofText directory).names ++
        [stem m.component m.session 0 ++ Text.ofString ".jsonl"] := by
      rw [hm.path_eq hq, fileIn_eq hm.component hm.session hm.named]
    rw [hnames, List.length_append, List.length_singleton] at hn hlast
    have hn : n ≤ (ofText directory).names.length := by omega
    rw [hnames, List.take_append_of_le_length hn, hl.path_eq hp]
    exact hway n hn

end

def AreSettled (d : Disk) (ls : List Logger) : Prop :=
  ∀ (i : Nat) (l : Logger) (p : Location), ls[i]? = some l → l.path = some p → IsFresh p d l.sink

theorem isFresh_of_keepsNodes {sink : Option Sink} (hf : IsFresh p d sink) (h : d.KeepsNodes e) :
    IsFresh p e sink :=
  hf.imp_right (Or.imp_right fun ⟨id, hid, hplace⟩ => ⟨id, hid, h.nodes hplace⟩)

theorem isFresh_make (hd : w.disk.IsSound) {o : LoggerOptions} (h : o.make w = (w', .ok l))
    (hp : l.path = some p) : IsFresh p w'.disk l.sink := by
  rcases LoggerOptions.make_cases h with ⟨_, hl⟩ | ⟨q, opened, _, hb, hl⟩
  · rw [(hl l rfl).1] at hp
    cases hp
  · obtain ⟨id, hid, hpath, hsink, _⟩ := hl l rfl
    obtain rfl := Option.some.inj (hpath.symm.trans hp)
    obtain ⟨_, _, hopen⟩ := Disk.openAfter_spec (Disk.makeDirectories_spec hd q.parent).1 hb
    exact .inr (.inr ⟨id, hsink, (hopen id hid).1⟩)

theorem AreSettled.set {ls : List Logger} {i : Nat} (hs : AreSettled d ls) {new : Logger}
    (hnew : ∀ p, new.path = some p → IsFresh p d new.sink) : AreSettled d (ls.set i new) := by
  intro j m q hm hq
  rw [List.getElem?_set] at hm
  split at hm
  · split at hm
    · cases hm
      exact hnew q hq
    · cases hm
  · exact hs j m q hm hq

theorem areSettled_turn (hr : Separate directory past s) (hs : AreSettled s.world.disk s.loggers)
    (hapart : AreApart directory s.loggers)
    (h : Turn (IsMadeIn directory) (SparesEntries directory) s t) :
    AreSettled t.world.disk t.loggers := by
  have hd := hr.isSound.1
  have hin := isLoggerIn_run hr
  cases h with
  | @opened w w' ls o l ho h =>
    intro j m q hm hq
    rw [List.getElem?_append] at hm
    split at hm
    · exact isFresh_of_keepsNodes (hs j m q hm hq) (keepsNodes_make hd h)
    · obtain rfl := List.mem_singleton.mp (List.mem_of_getElem? hm)
      exact isFresh_make hd h hq
  | unopened ho h =>
    intro j m q hm hq
    exact isFresh_of_keepsNodes (hs j m q hm hq) (keepsNodes_make hd h)
  | @called w w' ls i l l' level message context failure hl h =>
    have hlin := hin l (List.mem_of_getElem? hl)
    intro j m q hm hq
    rw [List.getElem?_set] at hm
    split at hm
    · split at hm
      · cases hm
        have hpath : l.path = some q := by
          rw [Logger.log_eq_with h] at hq
          exact hq
        rcases log_sink (hlin.isName hpath) hpath hd h with ⟨hplace, hsame⟩ | hfresh
        · rw [hsame]
          exact (hs i l q hl hpath).of_at? hplace
        · exact hfresh
      · cases hm
    · rename_i hij
      have hmin := hin m (List.mem_of_getElem? hm)
      obtain ⟨p, hp⟩ := hmin.exists_path hq hlin
      have hspares := hlin.spares hp hmin hq (hapart.names hij hl hm)
      exact (hs j m q hm hq).of_at? (Logger.at?_log hp (hlin.isName hp) hspares h)
  | @limited w ls i l hl limit => exact hs.set fun q hq => hs i l q hl hq
  | closed hl => exact hs.set fun q hq => .inl rfl
  | elsewhere hd' h =>
    intro j m q hm hq
    have hplace : q.place = _ := (hin m (List.mem_of_getElem? hm)).place_generation hq 0
    refine (hs j m q hm hq).of_at? ?_
    rw [hplace]
    exact h _

theorem areSettled_run (hr : Separate directory past s) (hapart : AreApart directory s.loggers) :
    AreSettled s.world.disk s.loggers := by
  induction hr with
  | start hd =>
    intro i l p hl
    cases hl
  | turn hr h ih =>
    have hbefore := hapart.before h
    exact areSettled_turn hr (ih hbefore) hbefore h

namespace TwoLogs

def options (component : Text) : LoggerOptions :=
  LoggerRequest.complete
    ⟨component, some "s", some "logs", none, some (.int (-1)), some (.int 1), none⟩
    (.read ⟨[]⟩)

def start : World := ⟨0, [], [], [], .empty⟩

def first : World := ((options "a").make start).1

def second : World := ((options "b").make first).1

def logger (component : Text) (id : FileId) : Logger :=
  (options component).loggerAt (.int (-1048576)) start
    (some (LoggerRequest.fileIn "logs" component (some "s"))) (some (.file id))

theorem isMadeIn_options (component : Text) (h : slash ∉ component) :
    IsMadeIn "logs" (options component) :=
  ⟨_, _, "s", rfl, rfl, rfl, by decide, by decide, h⟩

theorem areApart : AreApart "logs" [logger "a" 0, logger "b" 1] := by
  apply areApart_pair
  · unfold KeepsOff
    decide +kernel
  · unfold KeepsOff
    decide +kernel
  · unfold SparesWay Logger.Spares
    decide +kernel
  · unfold SparesWay Logger.Spares
    decide +kernel

end TwoLogs

namespace Displaced

def request (directory : Text) (pair : Text × Text) : LoggerRequest :=
  ⟨pair.1, some pair.2, some directory, none, none, some (.int 2), none⟩

def call : Step := .log "l" .info (.text "m") []

def before (directory : Text) (l m : Text × Text) : Session :=
  (Session.start 0 [] ⟨[]⟩).advance [.createLogger "l" (request directory l),
    .createLogger "m" (request directory m), .setLimit "l" (.int 1), call]

def after (directory : Text) (l m : Text × Text) : Session :=
  ((before directory l m).step call).1

def pathOf (directory : Text) (pair : Text × Text) : Location :=
  LoggerRequest.fileIn directory pair.1 (some pair.2)

structure Displaces (directory : Text) (l m : Text × Text) (id : FileId) : Prop where
  different : l ≠ m
  path : ((before directory l m).logger? "m").map (·.2.path) = some (some (pathOf directory m))
  handle : ((before directory l m).logger? "m").bind (·.2.sink) = some (.file id)
  found : ((before directory l m).world.disk.find (pathOf directory m)).toOption =
    some (some (.file id))
  lost : ((after directory l m).world.disk.find (pathOf directory m)).toOption ≠
    some (some (.file id))

end Displaced

end Separation

end DriveBridge
