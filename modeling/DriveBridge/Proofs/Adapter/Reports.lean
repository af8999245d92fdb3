import DriveBridge.Proofs.Json.Writable
import DriveBridge.Proofs.Log.Members
import DriveBridge.Proofs.Log.RefusedCall
import DriveBridge.Proofs.Path.NullTerminated
import DriveBridge.Proofs.Path.Restriction
import DriveBridge.Proofs.Redaction.Coverage

namespace DriveBridge

open CodePoint Entry Value

namespace Adapter

inductive Call
  | toHost (path : Value)
  | toClient (path : Value)
  | nullTerminated (path : Value)
  | length (path : Value)

inductive Report
  | foreign (source : Text)
  | embeddedNul (target : Text) (position : Nat)

namespace Report

def level : Report → Level
  | foreign _ => .warning
  | embeddedNul _ _ => .error

def message : Report → Text
  | foreign _ => unrestrictedWarning
  | embeddedNul _ _ => nulReport

def context : Report → List (Value × Value)
  | foreign t => [(.text "source", .text t)]
  | embeddedNul t i =>
    [(.text "target", .text (HostPath.mk t).lastSegment), (.text "nul_position", .int i)]

def log (r : Report) (l : Logger) (w : World) : World × Logger × Option LogError :=
  l.log r.level (.text r.message) r.context w

end Report

namespace Call

variable {a : Adapter} {c : Call} {r : Report}

def path : Call → Value
  | toHost path | toClient path | nullTerminated path | length path => path

def perform (c : Call) (a : Adapter) (l : Logger) (w : World) :
    World × Logger × Except Failure Value :=
  match c with
  | toHost path =>
    let (w, l, outcome) := a.toHost path l w
    (w, l, outcome.map .host)
  | toClient path => (w, l, (Adapter.toClient path).map .client)
  | nullTerminated path =>
    let (w, l, outcome) := Adapter.nullTerminated path l w
    (w, l, outcome.map .octets)
  | length path => (w, l, (a.length path).map fun n => .int n)

def answer (c : Call) (a : Adapter) : Except Failure Value :=
  match c with
  | toHost path => (a.clientPath path).map fun p => .host p.toHost
  | toClient path => (Adapter.toClient path).map .client
  | nullTerminated path => match hostPath path with
    | .ok p => (p.nullTerminated.mapError .embeddedNul).map .octets
    | .error cause => .error cause
  | length path => (a.length path).map fun n => .int n

def report? (c : Call) (a : Adapter) : Option Report :=
  match c with
  | toHost path => match a.clientPath path with
    | .ok p =>
      if a.warnUnrestricted.isTrue && !p.isRestricted then some (.foreign p.text) else none
    | .error _ => none
  | nullTerminated path => match hostPath path with
    | .ok p => (EmbeddedNul.index? p.text).map (.embeddedNul p.text)
    | .error _ => none
  | toClient _ | length _ => none

inductive Reports (a : Adapter) : Call → Report → Prop
  | foreign {path : Value} {t : Text} (hpath : path = .text t ∨ path = .client ⟨t⟩)
      (hon : a.warnUnrestricted.isTrue) (ht : t.HasForeignPrefix) :
      Reports a (toHost path) (.foreign t)
  | embeddedNul {path : Value} {t : Text} {i : Nat} (hpath : path = .text t ∨ path = .host ⟨t⟩)
      (hi : t[i]? = some 0) (hfirst : 0 ∉ t.take i) :
      Reports a (nullTerminated path) (.embeddedNul t i)

theorem clientPath_eq_ok_iff {path : Value} {p : ClientPath} :
    a.clientPath path = .ok p ↔ path = .text p.text ∨ path = .client p := by
  obtain ⟨t⟩ := p
  cases path
  case text u => simp [clientPath]
  case client q => simp [clientPath]
  all_goals
    refine iff_of_false ?_ (by simp)
    rw [clientPath]
    · split
      · nofun
      · nofun
    all_goals
      intros
      contradiction

theorem hostPath_eq_ok_iff {path : Value} {p : HostPath} :
    hostPath path = .ok p ↔ path = .text p.text ∨ path = .host p := by
  obtain ⟨t⟩ := p
  cases path
  case text u => simp [hostPath, textOf, Except.map]
  case host q => simp [hostPath]
  all_goals
    refine iff_of_false ?_ (by simp)
    intro h
    cases h

theorem report?_eq_some_iff : c.report? a = some r ↔ Reports a c r := by
  constructor
  · intro h
    cases c with
    | toHost path =>
      rw [report?] at h
      split at h
      · rename_i p hp
        split at h
        · rename_i hon
          rw [Bool.and_eq_true, Bool.not_eq_true', ClientPath.isRestricted_eq_false_iff] at hon
          obtain rfl := Option.some.inj h
          exact .foreign (clientPath_eq_ok_iff.mp hp) hon.1 hon.2
        · cases h
      · cases h
    | nullTerminated path =>
      rw [report?] at h
      split at h
      · rename_i p hp
        obtain ⟨i, hi, rfl⟩ := Option.map_eq_some_iff.mp h
        obtain ⟨hi, hfirst⟩ := EmbeddedNul.index?_eq_some_iff.mp hi
        exact .embeddedNul (hostPath_eq_ok_iff.mp hp) hi hfirst
      · cases h
    | toClient | length => cases h
  · rintro (⟨hpath, hon, ht⟩ | ⟨hpath, hi, hfirst⟩)
    · rw [report?, clientPath_eq_ok_iff.mpr hpath]
      dsimp only
      rw [if_pos]
      rw [hon, (ClientPath.isRestricted_eq_false_iff _).mpr ht]
      rfl
    · rw [report?, hostPath_eq_ok_iff.mpr hpath]
      dsimp only
      rw [EmbeddedNul.index?_eq_some_iff.mpr ⟨hi, hfirst⟩, Option.map_some]

theorem report?_eq_none_iff : c.report? a = none ↔ ∀ r, ¬ Reports a c r := by
  simp only [Option.eq_none_iff_forall_ne_some, ne_eq, report?_eq_some_iff]

theorem Reports.isSound_path (h : Reports a c r) : c.path.isSound := by
  obtain ⟨rfl | rfl, _, _⟩ | ⟨rfl | rfl, _, _⟩ := h
  all_goals rfl

theorem answer_of_foreign {path : Value} {t : Text}
    (hpath : path = .text t ∨ path = .client ⟨t⟩) :
    (toHost path).answer a = .ok (.host (ClientPath.mk t).toHost) := by
  rw [answer, clientPath_eq_ok_iff.mpr hpath]
  rfl

theorem answer_of_embeddedNul {path : Value} {t : Text} {i : Nat}
    (hpath : path = .text t ∨ path = .host ⟨t⟩) (hi : t[i]? = some 0) (hfirst : 0 ∉ t.take i) :
    (nullTerminated path).answer a = .error (.embeddedNul ⟨t, .int i⟩) := by
  rw [answer, hostPath_eq_ok_iff.mpr hpath]
  dsimp only
  rw [HostPath.nullTerminated_of_index (EmbeddedNul.index?_eq_some_iff.mpr ⟨hi, hfirst⟩)]
  rfl

theorem perform_eq (c : Call) (a : Adapter) (l : Logger) (w : World) :
    c.perform a l w = match c.report? a with
      | none => (w, l, c.answer a)
      | some r => match r.log l w with
        | (w, l, none) => (w, l, c.answer a)
        | (w, l, some cause) => (w, l, .error (.log cause)) := by
  cases c with
  | toHost path =>
    rw [perform, Adapter.toHost, report?, answer]
    cases a.clientPath path with
    | error cause => rfl
    | ok p =>
      dsimp only
      cases a.warnUnrestricted.isTrue && !p.isRestricted with
      | false => rfl
      | true =>
        simp only [if_true, Report.log, Report.level, Report.message, Report.context]
        obtain ⟨w, l, failure⟩ :=
          l.log .warning (.text unrestrictedWarning) [(.text "source", .text p.text)] w
        cases failure <;> rfl
  | nullTerminated path =>
    rw [perform, Adapter.nullTerminated, report?, answer]
    cases hostPath path with
    | error cause => rfl
    | ok p =>
      dsimp only
      cases hi : EmbeddedNul.index? p.text with
      | none => rw [HostPath.nullTerminated, hi]; rfl
      | some i =>
        rw [HostPath.nullTerminated_of_index hi]
        simp only [Option.map_some, Report.log, Report.level, Report.message, Report.context]
        obtain ⟨w, l, failure⟩ := l.log .error (.text nulReport)
          [(.text "target", .text p.lastSegment), (.text "nul_position", .int i)] w
        cases failure <;> rfl
  | toClient path => rfl
  | length path => rfl

end Call

end Adapter

namespace Redactor

variable (r : Redactor)

def shownText (k t : Text) : Text := if Text.lower k ∈ r.names then mark else r.redactPath t

theorem shown_text (k t : Text) : r.shown (.text k) (.text t) = some (.text (r.shownText k t)) := by
  rw [shown, isSensitive?, shownText, Option.bind_some]
  by_cases hk : Text.lower k ∈ r.names <;> simp [hk, redactValue]

end Redactor

namespace Logger

variable {l : Logger} {now : Int} {level : Level} {message : Value}
  {context shown : List (Value × Value)}

theorem entry_of_shown (hkeys : context.all (isContextKey ·.1))
    (hshown : l.redactor.redactEntries context = some shown)
    (hstamp : Calendar.hasStamp (now / 4)) : l.entry now level message context =
      .ok (extend (base level l.component l.session l.started now message) shown) := by
  rw [entry, if_pos hkeys, hshown, hstamp]
  rfl

theorem line_beyondCalendar (hkeys : context.all (isContextKey ·.1))
    (hshown : l.redactor.redactEntries context = some shown)
    (hstamp : Calendar.hasStamp (now / 4) = false) :
    l.line now level message context = .error .beyondCalendar := by
  rw [line, entry, if_pos hkeys, hshown, hstamp]
  rfl

end Logger

namespace Adapter.Report

variable (r : Report) (l : Logger) {now : Int}

def shown (redactor : Redactor) : Report → List (Value × Value)
  | foreign t => [(.text "source", .text (redactor.shownText "source" t))]
  | embeddedNul t i =>
    [(.text "target", .text (redactor.shownText "target" (HostPath.mk t).lastSegment)),
      (.text "nul_position", if Text.lower "nul_position" ∈ redactor.names then .text Redactor.mark
        else .int i)]

def entry (now : Int) : List (Value × Value) :=
  extend (base r.level l.component l.session l.started now (.text r.message)) (r.shown l.redactor)

theorem isContextKey_context : r.context.all (isContextKey ·.1) := by
  cases r <;> rfl

theorem redactEntries_context (redactor : Redactor) :
    redactor.redactEntries r.context = some (r.shown redactor) := by
  cases r with
  | foreign t =>
    rw [context, Redactor.redactEntries_cons, Redactor.shown_text, Redactor.redactEntries]
    rfl
  | embeddedNul t i =>
    have hposition : redactor.shown (.text "nul_position") (.int i) =
        some (if Text.lower "nul_position" ∈ redactor.names then .text Redactor.mark
          else .int i) := by
      rw [Redactor.shown, Redactor.isSensitive?, Option.bind_some]
      by_cases hk : Text.lower "nul_position" ∈ redactor.names <;> simp [hk, Redactor.redactValue]
    rw [context, Redactor.redactEntries_cons, Redactor.shown_text, Redactor.redactEntries_cons,
      hposition, Redactor.redactEntries]
    rfl

theorem keys_shown (redactor : Redactor) :
    (r.shown redactor).map Prod.fst = r.context.map Prod.fst :=
  Redactor.keys_redactEntries (r.redactEntries_context redactor)

theorem isContextKey_shown (redactor : Redactor) :
    (r.shown redactor).all (isContextKey ·.1) :=
  Entry.all_isContextKey_congr (r.keys_shown redactor) r.isContextKey_context

theorem nodup_keys_shown (redactor : Redactor) : ((r.shown redactor).map Prod.fst).Nodup := by
  rw [keys_shown]
  cases r with
  | foreign t => exact List.nodup_singleton _
  | embeddedNul t i => simp [context]; decide

theorem isScalar_entry : ∀ e ∈ r.entry l now, e.1.isScalar ∧ e.2.isScalar := by
  intro e he
  rcases Entry.mem_extend (r.isContextKey_shown l.redactor) he with he | he
  · simp only [base, List.mem_cons, List.not_mem_nil, or_false] at he
    rcases he with rfl | rfl | rfl | rfl | rfl | rfl | rfl
    all_goals exact ⟨rfl, rfl⟩
  · cases r with
    | foreign t =>
      obtain rfl := List.mem_singleton.mp he
      exact ⟨rfl, rfl⟩
    | embeddedNul t i =>
      simp only [shown, List.mem_cons, List.not_mem_nil, or_false] at he
      rcases he with rfl | rfl
      · exact ⟨rfl, rfl⟩
      · refine ⟨rfl, ?_⟩
        dsimp only
        split <;> rfl

theorem entry_eq (h : Calendar.hasStamp (now / 4)) :
    l.entry now r.level (.text r.message) r.context = .ok (r.entry l now) :=
  Logger.entry_of_shown r.isContextKey_context (r.redactEntries_context l.redactor) h

theorem exists_line (h : Calendar.hasStamp (now / 4)) :
    ∃ line, JsonText.write? (.table (r.entry l now)) = some line ∧
      l.line now r.level (.text r.message) r.context = .ok line := by
  obtain ⟨line, hline⟩ :=
    Option.isSome_iff_exists.mp (JsonText.isSome_write?_of_scalars (r.isScalar_entry l))
  refine ⟨line, hline, ?_⟩
  rw [Logger.line, r.entry_eq l h]
  dsimp only
  rw [hline]

theorem log_beyondCalendar {w : World} (h : Calendar.hasStamp (w.now / 4) = false) :
    r.log l w = (w, l, some (.entry .beyondCalendar)) := by
  rw [log, Logger.log,
    Logger.line_beyondCalendar r.isContextKey_context (r.redactEntries_context l.redactor) h]

theorem member?_entry {name : Text} {v : Value} (h : (.text name, v) ∈ r.shown l.redactor) :
    member? name (r.entry l now) = some v :=
  Entry.member?_extend _ (r.isContextKey_shown l.redactor) (r.nodup_keys_shown l.redactor) h

end Adapter.Report

namespace Session

open Adapter

variable {s : Session} {name : Text} {a : Adapter} {id : LoggerId} {l : Logger}

theorem getElem?_of_adapter? (h : s.adapter? name = some (a, id, l)) :
    s.adapters.lookup name = some (a, id) ∧ s.loggers[id]? = some l := by
  obtain ⟨_, ha, h⟩ := Option.bind_eq_some_iff.mp h
  obtain ⟨_, hl, h⟩ := Option.bind_eq_some_iff.mp h
  cases h
  exact ⟨ha, hl⟩

def callStep (name : Text) : Call → Step
  | .toHost path => .toHost name path
  | .toClient path => .toClient name path
  | .nullTerminated path => .nullTerminated name path
  | .length path => .adapterLength name path

theorem step_callStep (s : Session) (name : Text) (c : Call) :
    s.step (callStep name c) = s.withAdapter name c.path c.perform := by
  cases c
  all_goals
    rw [callStep, step]
    rfl

theorem step_call (h : s.adapter? name = some (a, id, l)) {c : Call} (hc : c.path.isSound) :
    s.step (callStep name c) = (s.after id (c.perform a l s.world).1 (c.perform a l s.world).2.1,
      (c.perform a l s.world).2.2.map .value) := by
  rw [step_callStep, withAdapter, h]
  dsimp only
  rw [hc, Bool.not_true, if_neg Bool.false_ne_true]

theorem step_call_unsound (h : s.adapter? name = some (a, id, l)) {c : Call}
    (hc : c.path.isSound = false) : s.step (callStep name c) = (s, .error .unsound) := by
  rw [step_callStep, withAdapter, h]
  dsimp only
  rw [hc, Bool.not_false, if_pos rfl]

/-- All that a call of an adapter can do: nothing to the session, fail because of the clock, or
deliver the line of its report and then answer. -/
theorem call_cases (h : s.adapter? name = some (a, id, l)) (c : Call) :
    ((s.step (callStep name c)).1 = s ∧ ∀ r, ¬ Call.Reports a c r) ∨
    ∃ r, Call.Reports a c r ∧
      (Calendar.hasStamp (s.world.now / 4) = false ∧
        s.step (callStep name c) = (s, .error (.log (.entry .beyondCalendar))) ∨
      ∃ line, Calendar.hasStamp (s.world.now / 4) ∧
        JsonText.write? (.table (r.entry l s.world.now)) = some line ∧
        s.step (callStep name c) = match l.deliver line s.world with
          | (w, l, none) => (s.after id w l, (c.answer a).map .value)
          | (w, l, some cause) => (s.after id w l, .error (.log cause))) := by
  obtain ⟨_, hlogger⟩ := getElem?_of_adapter? h
  cases hc : c.path.isSound with
  | false =>
    rw [step_call_unsound h hc]
    refine .inl ⟨rfl, ?_⟩
    intro r hr
    rw [hr.isSound_path] at hc
    cases hc
  | true =>
    rw [step_call h hc, Call.perform_eq]
    cases hreport : c.report? a with
    | none => exact .inl ⟨after_self hlogger, Call.report?_eq_none_iff.mp hreport⟩
    | some r =>
      refine .inr ⟨r, Call.report?_eq_some_iff.mp hreport, ?_⟩
      dsimp only
      cases hstamp : Calendar.hasStamp (s.world.now / 4) with
      | false =>
        rw [r.log_beyondCalendar l hstamp]
        dsimp only
        rw [after_self hlogger]
        exact .inl ⟨rfl, rfl⟩
      | true =>
        obtain ⟨line, hwrite, hline⟩ := r.exists_line l hstamp
        refine .inr ⟨line, rfl, hwrite, ?_⟩
        rw [Report.log, Logger.log, hline]
        dsimp only
        obtain ⟨w, l', failure⟩ := l.deliver line s.world
        cases failure <;> rfl

end Session

end DriveBridge
