import DriveBridge.Proofs.Adapter.Reports
import DriveBridge.Proofs.Log.Lines

namespace DriveBridge

open Adapter Entry

namespace Session

structure Event where
  call : Call
  now : Int
  outcome : Except Failure Answer

/-- Calls of an adapter, and steps in between that leave the adapter, its logger and a stream as
they are. -/
inductive Uses (name out : Text) : Session → List Event → Session → Prop
  | done {s : Session} : Uses name out s [] s
  | called {s t : Session} {c : Call} {events : List Event}
      (hr : Uses name out (s.step (callStep name c)).1 events t) :
      Uses name out s (⟨c, s.world.now, (s.step (callStep name c)).2⟩ :: events) t
  | elsewhere {s t : Session} {st : Step} {events : List Event}
      (ha : (s.step st).1.adapter? name = s.adapter? name)
      (hw : (s.step st).1.world.stream out = s.world.stream out)
      (hr : Uses name out (s.step st).1 events t) : Uses name out s events t

inductive Writes (a : Adapter) (l : Logger) : Event → List Text → Prop
  | nothing {e : Event} (h : ∀ r, ¬ Call.Reports a e.call r) : Writes a l e []
  | beyondCalendar {e : Event} {r : Report} (h : Call.Reports a e.call r)
      (hstamp : Calendar.hasStamp (e.now / 4) = false)
      (houtcome : e.outcome = .error (.log (.entry .beyondCalendar))) : Writes a l e []
  | warning {e : Event} {t : Text} {entry : List (Value × Value)} {line : Text}
      (h : Call.Reports a e.call (.foreign t)) (hstamp : Calendar.hasStamp (e.now / 4))
      (hentry : l.entry e.now .warning (.text unrestrictedWarning)
        [(.text "source", .text t)] = .ok entry)
      (hline : JsonText.write? (.table entry) = some line)
      (houtcome : e.outcome = .ok (.value (.host (ClientPath.mk t).toHost))) :
      Writes a l e [line]
  | error {e : Event} {t : Text} {i : Nat} {entry : List (Value × Value)} {line : Text}
      (h : Call.Reports a e.call (.embeddedNul t i)) (hstamp : Calendar.hasStamp (e.now / 4))
      (hentry : l.entry e.now .error (.text nulReport)
        [(.text "target", .text (HostPath.mk t).lastSegment), (.text "nul_position", .int i)] =
          .ok entry)
      (hposition : member? "nul_position" entry = some (.int i))
      (hline : JsonText.write? (.table entry) = some line)
      (houtcome : e.outcome = .error (.embeddedNul ⟨t, .int i⟩)) : Writes a l e [line]

inductive Recorded (a : Adapter) (l : Logger) : List Event → List Text → Prop
  | nil : Recorded a l [] []
  | cons {e : Event} {events : List Event} {lines more : List Text} (h : Writes a l e lines)
      (hs : Recorded a l events more) : Recorded a l (e :: events) (lines ++ more)

variable {s t : Session} {name out : Text} {a : Adapter} {id : LoggerId} {l : Logger}

theorem lower_nulPosition : Text.lower "nul_position" = "nul_position" := by decide +kernel

theorem writes_of_report {c : Call} {r : Report} (h : Call.Reports a c r)
    (hposition : Text.ofString "nul_position" ∉ l.redactor.names) {now : Int}
    (hstamp : Calendar.hasStamp (now / 4)) {line : Text}
    (hline : JsonText.write? (.table (r.entry l now)) = some line) :
    Writes a l ⟨c, now, (c.answer a).map .value⟩ [line] := by
  have hentry := r.entry_eq l hstamp
  cases h with
  | foreign hpath hon ht =>
    refine .warning (.foreign hpath hon ht) hstamp hentry hline ?_
    rw [Call.answer_of_foreign hpath]
    rfl
  | embeddedNul hpath hi hfirst =>
    refine .error (.embeddedNul hpath hi hfirst) hstamp hentry ?_ hline ?_
    · apply Report.member?_entry
      rw [Report.shown, lower_nulPosition, if_neg hposition]
      exact List.mem_cons_of_mem _ (List.mem_singleton_self _)
    · rw [Call.answer_of_embeddedNul hpath hi hfirst]
      rfl

theorem call_stream (ha : s.adapter? name = some (a, id, l)) (hl : l.IsAtStream out)
    (hposition : Text.ofString "nul_position" ∉ l.redactor.names) (c : Call) :
    (s.step (callStep name c)).1.adapter? name = some (a, id, l) ∧
    ∃ lines, Writes a l ⟨c, s.world.now, (s.step (callStep name c)).2⟩ lines ∧
      (∀ line ∈ lines, line.IsPrintable) ∧ (s.step (callStep name c)).1.world.stream out =
        s.world.stream out ++ Transcript.textOf lines := by
  have hempty : s.world.stream out = s.world.stream out ++ Transcript.textOf [] :=
    (List.append_nil _).symm
  obtain ⟨hs, hnone⟩ | ⟨r, hr, ⟨hstamp, hs⟩ | ⟨line, hstamp, hline, hs⟩⟩ := call_cases ha c
  · rw [hs]
    exact ⟨ha, [], .nothing hnone, by simp, hempty⟩
  · rw [hs]
    exact ⟨ha, [], .beyondCalendar hr hstamp rfl, by simp, hempty⟩
  · obtain ⟨w, hdeliver⟩ : ∃ w, l.deliver line s.world = (w, l, none) :=
      ⟨_, Prod.ext rfl (hl.deliver line s.world)⟩
    rw [hdeliver] at hs
    dsimp only at hs
    rw [after_logger (getElem?_of_adapter? ha).2] at hs
    rw [hs]
    refine ⟨ha, [line], writes_of_report hr hposition hstamp hline, ?_, ?_⟩
    · simpa using JsonText.isPrintable_write hline
    · have hstream := hl.stream_deliver line s.world
      rw [hdeliver] at hstream
      rw [Transcript.textOf, List.flatMap_singleton]
      exact hstream

theorem uses_stream {events : List Event} (h : Uses name out s events t)
    (ha : s.adapter? name = some (a, id, l)) (hl : l.IsAtStream out)
    (hposition : Text.ofString "nul_position" ∉ l.redactor.names) :
    ∃ lines, Recorded a l events lines ∧ (∀ line ∈ lines, line.IsPrintable) ∧
      t.world.stream out = s.world.stream out ++ Transcript.textOf lines := by
  induction h with
  | done => exact ⟨[], .nil, by simp, (List.append_nil _).symm⟩
  | called hr ih =>
    rename_i s _ c _
    obtain ⟨ha', lines, hwrites, hprintable, hw⟩ := call_stream ha hl hposition c
    obtain ⟨more, hrecorded, hprintable', hw'⟩ := ih ha'
    refine ⟨lines ++ more, .cons hwrites hrecorded, ?_, ?_⟩
    · intro line hm
      exact (List.mem_append.mp hm).elim (hprintable line) (hprintable' line)
    · rw [hw', hw, Transcript.textOf_append, List.append_assoc]
  | elsewhere ha' hw hr ih =>
    obtain ⟨lines, hrecorded, hprintable, hw'⟩ := ih (ha'.trans ha)
    exact ⟨lines, hrecorded, hprintable, hw'.trans (by rw [hw])⟩

/-- The lines of a stream are the record of the offending paths, one for each and in order. -/
theorem record_of_uses {events : List Event} (h : Uses name out s events t)
    (ha : s.adapter? name = some (a, id, l)) (hl : l.IsAtStream out)
    (hposition : Text.ofString "nul_position" ∉ l.redactor.names) :
    ∃ lines new, Recorded a l events lines ∧
      t.world.stream out = s.world.stream out ++ new ∧
      Text.split Text.isNewline new = lines ++ [[]] := by
  obtain ⟨lines, hrecorded, hprintable, hw⟩ := uses_stream h ha hl hposition
  exact ⟨lines, Transcript.textOf lines, hrecorded, hw, Text.split_lines hprintable⟩

theorem Writes.exists_line {e : Event} {r : Report} {lines : List Text} (h : Writes a l e lines)
    (hr : Call.Reports a e.call r) (hstamp : Calendar.hasStamp (e.now / 4)) :
    ∃ line, lines = [line] := by
  cases h with
  | nothing h => exact absurd hr (h r)
  | beyondCalendar _ hnot => rw [hnot] at hstamp; cases hstamp
  | warning => exact ⟨_, rfl⟩
  | error => exact ⟨_, rfl⟩

end Session

namespace Recording

open Session

def steps : List Step := Refused.toStream ++ [.openAdapter "p" (some "l") .null .null]

def start : Session := Refused.start.advance steps

def adapter : Adapter := ⟨.utf8, .bool true⟩

def source : Text := "//server\\x"

def target : Text := [0x61, 0, 0x62, 0]

def sourceCall : Call := .toHost (.text source)

def targetCall : Call := .nullTerminated (.text target)

theorem reports_source : Call.Reports adapter sourceCall (.foreign source) :=
  .foreign (.inl rfl) rfl ⟨0x2F, 0x2F, "server\\x", rfl, .inr ⟨rfl, rfl⟩⟩

theorem reports_target : Call.Reports adapter targetCall (.embeddedNul target 1) :=
  .embeddedNul (.inl rfl) rfl (by decide +kernel)

theorem recorded_once_each : ∃ t warning error new,
    t = ((start.step (callStep "p" sourceCall)).1.step (callStep "p" targetCall)).1 ∧
    t.world.stream "out" = start.world.stream "out" ++ new ∧
    Text.split Text.isNewline new = [warning, error, []] := by
  have ha : start.adapter? "p" = some (adapter, 0, Refused.logger) := rfl
  have hl : Refused.logger.IsAtStream "out" := ⟨rfl, rfl⟩
  obtain ⟨lines, new, hrecorded, hnew, hsplit⟩ := record_of_uses (.called (.called .done)) ha hl
    (by decide +kernel)
  cases hrecorded with
  | cons h hs =>
    cases hs with
    | cons h' hs =>
      cases hs
      obtain ⟨warning, rfl⟩ := h.exists_line reports_source (by decide +kernel)
      obtain ⟨error, rfl⟩ := h'.exists_line reports_target (by decide +kernel)
      exact ⟨_, warning, error, new, rfl, hnew, hsplit⟩

def late : Session := start.advance [.setClock 1000000000000000000]

/-- Beyond the calendar an offending path leaves no line, and its caller gets another error. -/
theorem unrecorded_beyond_calendar :
    late.adapter? "p" = some (adapter, 0, Refused.logger) ∧ Refused.logger.IsAtStream "out" ∧
    Text.ofString "nul_position" ∉ Refused.logger.redactor.names ∧
    Call.Reports adapter sourceCall (.foreign source) ∧
    (late.step (callStep "p" sourceCall)).2 = .error (.log (.entry .beyondCalendar)) ∧
    (late.step (callStep "p" sourceCall)).1.world.stream "out" = late.world.stream "out" :=
  ⟨rfl, ⟨rfl, rfl⟩, by decide +kernel, reports_source, rfl, rfl⟩

end Recording

end DriveBridge
