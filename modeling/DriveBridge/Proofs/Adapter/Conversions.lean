import DriveBridge.Proofs.Log.Reopening
import DriveBridge.Proofs.Session.Changes
import DriveBridge.Proofs.Session.Soundness

namespace DriveBridge

open Adapter

variable {l : Logger} {w w' : World}

theorem LoggerOptions.sink_make {o : LoggerOptions} (h : o.make w = (w', .ok l)) :
    l.sink ≠ some .lost := by
  intro hlost
  rw [make] at h
  split at h
  · cases h
  · cases h
    cases hlost
  · cases h
    cases hlost
  · split at h
    · cases h
      cases hlost
    · cases h

def Logger.IsSafeIn (l : Logger) (stages : List Session) : Prop :=
  ∀ p, l.path = some p → l.keep.integer?.isSome ∧ p.IsDirect ∧
    ∀ s ∈ stages, s.world.disk.find p ≠ .ok (some .directory)

/-- A logger that reports get through at an instant, after some stages. -/
structure Logger.IsReliable (l : Logger) (now : Int) (stages : List Session) : Prop where
  stamp : Calendar.hasStamp (now / 4)
  numeric : l.path.isSome → l.IsNumeric
  file : ∀ p, l.path = some p → p.IsDirect ∧
    ∀ s ∈ stages, s.world.disk.find p ≠ .ok (some .directory)

namespace Logger

variable {s : Session} {stages : List Session}

theorem IsSafeIn.on (h : l.IsSafeIn (s :: stages)) : l.IsSafeOn s.world.disk := by
  intro p hp
  obtain ⟨hkeep, hdirect, hnode⟩ := h p hp
  exact ⟨hkeep, hdirect, hnode s List.mem_cons_self⟩

theorem IsSafeIn.before (h : l.IsSafeIn (s :: stages)) : l.IsSafeIn stages := by
  intro p hp
  obtain ⟨hkeep, hdirect, hnode⟩ := h p hp
  exact ⟨hkeep, hdirect, fun t ht => hnode t (List.mem_cons_of_mem _ ht)⟩

theorem IsSafeIn.of_eq {l' : Logger} (h : l'.IsSafeIn stages) (hkeep : l'.keep = l.keep)
    (hpath : l'.path = l.path) : l.IsSafeIn stages := by
  rw [IsSafeIn, hkeep, hpath] at h
  exact h

theorem IsReliable.isSafeIn {now : Int} (h : l.IsReliable now stages) : l.IsSafeIn stages := by
  intro p hp
  exact ⟨(h.numeric (by rw [hp]; rfl)).keep, h.file p hp⟩

end Logger

namespace Adapter.Call

theorem perform_answer {c : Call} {a : Adapter} (h : ∀ r, Reports a c r →
      (w.disk.IsSound ∧ l.IsSafeOn w.disk ∧ l.sink ≠ some .lost) ∧
      (l.path.isSome → l.IsNumeric) ∧ Calendar.hasStamp (w.now / 4)) :
    (c.perform a l w).2.2 = c.answer a := by
  rw [perform_eq]
  split
  · rfl
  · rename_i r hr
    obtain ⟨⟨hd, hs, hsink⟩, hl, hstamp⟩ := h r (report?_eq_some_iff.mp hr)
    obtain ⟨line, _, hline⟩ := r.exists_line l hstamp
    split
    · rfl
    · rename_i hlog
      cases (Logger.log_of_safe hd hs hsink hlog).2 hl line hline

end Adapter.Call

namespace Session

variable {s : Session} {stages : List Session}

def KeepsHandles (s : Session) (stages : List Session) : Prop :=
  ∀ l ∈ s.loggers, l.IsSafeIn stages → l.sink ≠ some .lost

theorem Change.keepsHandles {t : Session} (h : s.Change t) (hs : s.world.disk.IsSound)
    (hk : s.KeepsHandles stages) : t.KeepsHandles (s :: stages) := by
  have hold : ∀ l ∈ s.loggers, l.IsSafeIn (s :: stages) → l.sink ≠ some .lost :=
    fun l hl hsafe => hk l hl hsafe.before
  rw [KeepsHandles]
  cases h with
  | around hw heq | notOpened hw heq =>
    rw [heq]
    exact hold
  | opened hmade heq =>
    rw [heq]
    intro l hl
    rcases List.mem_append.mp hl with hl | hl
    · exact hold l hl
    · obtain rfl := List.mem_singleton.mp hl
      exact fun _ => LoggerOptions.sink_make hmade
  | @logged _ l _ _ _ _ _ hl hlog heq =>
    have hmem := List.mem_of_getElem? hl
    rw [heq]
    apply forall_mem_set hold
    intro hsafe
    -- A call changes nothing of a logger but its handle, so the logger was safe before it.
    have hwith := Logger.log_eq_with hlog
    have hbefore : l.IsSafeIn (s :: stages) := hsafe.of_eq (by rw [hwith]) (by rw [hwith])
    exact (Logger.log_of_safe hs hbefore.on (hold l hmem hbefore) hlog).1
  | @limited _ l _ hl _ heq =>
    have hmem := List.mem_of_getElem? hl
    rw [heq]
    apply forall_mem_set hold
    intro hsafe
    have hbefore : l.IsSafeIn (s :: stages) := hsafe.of_eq rfl rfl
    exact hold l hmem hbefore
  | closed _ _ heq =>
    rw [heq]
    apply forall_mem_set hold
    intro _ hlost
    cases hlost

theorem KeepsHandles.closeLogger (hk : s.KeepsHandles stages) (id : LoggerId) :
    (s.closeLogger id).KeepsHandles stages := by
  rw [Session.closeLogger]
  split
  · apply forall_mem_set hk
    intro _ hlost
    cases hlost
  · exact hk

structure IsOrderly (s : Session) (past : List (Session × Step)) : Prop where
  sound : s.IsSound
  handles : s.KeepsHandles (past.map Prod.fst)
  makers : ∀ e ∈ s.adapters, ∃ m ∈ past, m.1.Makes m.2 e.1 e.2.1

namespace IsOrderly

variable {past : List (Session × Step)}

theorem step (hs : s.IsOrderly past) {st : Step} (h : st.isSingle) :
    (s.step st).1.IsOrderly ((s, st) :: past) := by
  have hsound := hs.sound.step h
  have hmakers : ∀ e ∈ s.adapters, ∃ m ∈ (s, st) :: past, m.1.Makes m.2 e.1 e.2.1 := by
    intro e he
    obtain ⟨m, hm, hmakes⟩ := hs.makers e he
    exact ⟨m, List.mem_cons_of_mem _ hm, hmakes⟩
  obtain hk | ⟨t, name, a, id, hk, hmakes, ht⟩ := step_change h
  · refine ⟨hsound, hk.change.keepsHandles hs.sound.disk hs.handles, ?_⟩
    rw [hk.adapters]
    exact hmakers
  · rw [ht] at hsound ⊢
    refine ⟨hsound, hk.change.keepsHandles hs.sound.disk hs.handles, ?_⟩
    rw [hk.adapters]
    intro e he
    rcases List.mem_cons.mp he with rfl | he
    · exact ⟨_, List.mem_cons_self, hmakes⟩
    · exact hmakers e he

theorem closeLogger (hs : s.IsOrderly past) (id : LoggerId) :
    (s.closeLogger id).IsOrderly past := by
  refine ⟨hs.sound.closeLogger id, hs.handles.closeLogger id, ?_⟩
  rw [(keeps_closeLogger s id).adapters]
  exact hs.makers

theorem of_reaches {now : Int} {freshId : Text} {env : Environment}
    (h : (start now freshId env).Reaches past s) : s.IsOrderly past := by
  induction h with
  | refl =>
    refine ⟨isSound_start now freshId env, ?_, ?_⟩
    · intro l hl
      cases hl
    · intro e he
      cases he
  | step _ hst ih => exact ih.step hst
  | close _ id ih => exact ih.closeLogger id

theorem exists_maker (hs : s.IsOrderly past) {name : Text} {a : Adapter} {id : LoggerId}
    (h : s.adapters.lookup name = some (a, id)) : ∃ m ∈ past, m.1.Makes m.2 name a := by
  obtain ⟨_, _, hsplit, _⟩ := List.lookup_eq_some_iff.mp h
  apply hs.makers (name, a, id)
  rw [hsplit]
  exact List.mem_append_right _ List.mem_cons_self

end IsOrderly

/-- Whatever has happened in a session, the conversions of an adapter give what the paths
themselves give, and lengths are in the unit that the adapter was made with. Only where a path has
to be reported does anything depend on the logger. -/
theorem conversions_unaffected {now : Int} {freshId : Text} {env : Environment}
    {past : List (Session × Step)} (hr : (start now freshId env).Reaches past s) {name : Text}
    {a : Adapter} {id : LoggerId} {l : Logger} (h : s.adapter? name = some (a, id, l)) (t : Text) :
    (∀ path, path = .text t ∨ path = .client ⟨t⟩ →
      (a.warnUnrestricted.isTrue → t.HasForeignPrefix →
        l.IsReliable s.world.now (s :: past.map Prod.fst)) →
      (s.step (.toHost name path)).2 = .ok (.value (.host (ClientPath.mk t).toHost))) ∧
    (∀ path, path = .text t ∨ path = .host ⟨t⟩ →
      (s.step (.toClient name path)).2 = .ok (.value (.client (HostPath.mk t).toClient))) ∧
    (∀ path, path = .client ⟨t⟩ ∨ path = .host ⟨t⟩ →
      (s.step (.adapterLength name path)).2 = .ok (.value (.int (a.unit.count t)))) ∧
    (∃ m ∈ past, m.1.Makes m.2 name a) ∧
    ∀ path, path = .text t ∨ path = .host ⟨t⟩ →
      (0 ∈ t → l.IsReliable s.world.now (s :: past.map Prod.fst)) →
      (s.step (.nullTerminated name path)).2 =
        (((HostPath.mk t).nullTerminated.mapError .embeddedNul).map .octets).map .value := by
  have hs := IsOrderly.of_reaches hr
  obtain ⟨hadapter, hlogger⟩ := getElem?_of_adapter? h
  have hanswer (c : Call) (hc : c.path.isSound)
      (hl : ∀ r, Call.Reports a c r → l.IsReliable s.world.now (s :: past.map Prod.fst)) :
      (s.step (callStep name c)).2 = (c.answer a).map .value := by
    rw [step_call h hc]
    dsimp only
    rw [Call.perform_answer]
    intro r hr
    have hreliable := hl r hr
    have hsafe := hreliable.isSafeIn
    have hsink := hs.handles l (List.mem_of_getElem? hlogger) hsafe.before
    exact ⟨⟨hs.sound.disk, hsafe.on, hsink⟩, hreliable.numeric, hreliable.stamp⟩
  refine ⟨?_, ?_, ?_, hs.exists_maker hadapter, ?_⟩
  · rintro path (rfl | rfl) hl
    all_goals
      refine hanswer (.toHost _) rfl ?_
      rintro _ ⟨hpath | hpath, hon, ht⟩ <;> cases hpath
      exact hl hon ht
  · rintro path (rfl | rfl)
    all_goals
      refine hanswer (.toClient _) rfl ?_
      rintro _ ⟨⟩
  · rintro path (rfl | rfl)
    all_goals
      refine hanswer (.length _) rfl ?_
      rintro _ ⟨⟩
  · rintro path (rfl | rfl) hl
    all_goals
      refine hanswer (.nullTerminated _) rfl ?_
      rintro _ (_ | ⟨hpath | hpath, hi, _⟩) <;> cases hpath
      exact hl (List.mem_of_getElem? hi)

end Session

namespace Undisturbed

open Session Refused

def stages (steps : List Step) : List Session :=
  Refused.start.advance steps :: (Refused.start.trail [] steps).map Prod.fst

def adapter : Adapter := ⟨.utf8, .bool true⟩

def steps : List Step :=
  [.openLogger "k" (options (.file (.ofText "a.1.log/k.log")) (.int 1)), .putFile "a.log" "ab",
    .openLogger "l" (options (.file (.ofText "a.log")) (.int 1)), .setLimit "l" (.int 1),
    .openAdapter "p" (some "l") .null .null]

def logger : Logger :=
  (options (.file (.ofText "a.log")) (.int 1)).loggerAt (.int 1) Refused.start.world
    (some (.ofText "a.log")) (some (.file 1))

theorem isNumeric_logger : logger.IsNumeric := by
  constructor
  · exact fun _ _ => rfl
  · rfl

theorem find_ne_directory : ∀ s ∈ stages steps,
    s.world.disk.find (.ofText "a.log") ≠ .ok (some .directory) := by
  decide +kernel

theorem isReliable_logger : logger.IsReliable 0 (stages steps) := by
  refine ⟨by decide +kernel, fun _ => isNumeric_logger, ?_⟩
  rintro p ⟨⟩
  exact ⟨Location.isDirect_of_not_upward (by decide +kernel), find_ne_directory⟩

theorem converts_when_blocked :
    ((Refused.start.advance steps).step (.toHost "p" (.text "C:\\x"))).2 =
      .ok (.value (.host ⟨"C:/x"⟩)) := by
  have h : (Refused.start.advance steps).adapter? "p" = some (adapter, 1, logger) := rfl
  have hr : Refused.start.Reaches (Refused.start.trail [] steps) (Refused.start.advance steps) :=
    Reaches.refl.advance steps (by decide)
  obtain ⟨htoHost, _⟩ := conversions_unaffected hr h "C:\\x"
  exact htoHost _ (.inl rfl) fun _ _ => isReliable_logger

def adapterOf (output : Output) : List Step :=
  [.openLogger "l" (options output (.int 2)), .openAdapter "p" (some "l") .null .null]

def late : List Step := adapterOf .none ++ [.setClock 1000000000000000000]

def mistyped : List Step :=
  .putFile "a.log" "ab" :: adapterOf (.file (.ofText "a.log")) ++ [.setLimit "l" (.text "1")]

def detour : List Step :=
  .putFile "a.log" "ab" :: adapterOf (.file (.ofText "a.1.log/../a.log")) ++
    [.setLimit "l" (.int 1)]

def call : Step := .toHost "p" (.text "C:\\x")

/-- An instant without a stamp, a limit that is no number, and a way that is not direct each keep a
conversion from its result, although no log file was ever a directory. -/
theorem conversion_fails :
    ((Refused.start.advance late).step call).2 = .error (.log (.entry .beyondCalendar)) ∧
    (((Refused.start.advance mistyped).step call).2 = .error (.log .notNumber) ∧
      ∀ s ∈ stages mistyped,
        s.world.disk.find (.ofText "a.log") ≠ .ok (some .directory)) ∧
    ((Refused.start.advance detour).step call).2 = .error (.log (.disk .missing)) ∧
    ∀ s ∈ stages detour,
      s.world.disk.find (.ofText "a.1.log/../a.log") ≠ .ok (some .directory) := by
  refine ⟨rfl, ⟨rfl, ?_⟩, rfl, ?_⟩
  · decide +kernel
  · decide +kernel

end Undisturbed

end DriveBridge
