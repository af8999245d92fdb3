import DriveBridge.Proofs.Log.Lines
import DriveBridge.Proofs.Session.Changes

namespace DriveBridge

namespace Logger

variable {l l' : Logger} {w w' : World}

theorem close_of_closed (h : l.sink = none) : l.close = l := by
  rw [close, ← h]

theorem deliver_of_closed (h : l.sink = none) {line : Text} {failure : Option LogError}
    (hd : l.deliver line w = (w', l', failure)) :
    l' = l ∧ w'.disk = w.disk ∧ w'.streams = w.streams := by
  rw [deliver, h] at hd
  cases hd
  refine ⟨rfl, l.disk_console _ w, ?_⟩
  split
  · rfl
  · rfl

theorem log_of_closed (h : l.sink = none) {level : Level} {message : Value}
    {context : List (Value × Value)} {failure : Option LogError}
    (hlog : l.log level message context w = (w', l', failure)) :
    l' = l ∧ w'.disk = w.disk ∧ w'.streams = w.streams := by
  rw [log] at hlog
  split at hlog
  · exact deliver_of_closed h hlog
  · cases hlog
    exact ⟨rfl, rfl, rfl⟩

end Logger

namespace Session

open Adapter

variable {s t : Session} {id : LoggerId} {st : Step}

def IsClosed (s : Session) (id : LoggerId) : Prop :=
  ∃ l, s.loggers[id]? = some l ∧ l.sink = none

/-- The steps at whose end a logger is closed. A block on an adapter closes the logger of that
adapter, wherever its own steps end. -/
inductive Closes (s : Session) (id : LoggerId) : Step → Prop
  | logger {name : Text} {l : Logger} (h : s.logger? name = some (id, l)) :
      Closes s id (.closeLogger name)
  | adapter {name : Text} {a : Adapter} {l : Logger} (h : s.adapter? name = some (a, id, l)) :
      Closes s id (.closeAdapter name)
  | block {name : Text} {a : Adapter} {l : Logger} (h : s.adapter? name = some (a, id, l))
      (steps : List Step) : Closes s id (.within name steps)

inductive Concerns (s : Session) (id : LoggerId) : Step → Prop
  | log {name : Text} {l : Logger} (h : s.logger? name = some (id, l)) (level : Level)
      (message : Value) (context : List (Value × Value)) :
      Concerns s id (.log name level message context)
  | call {name : Text} {a : Adapter} {l : Logger} (h : s.adapter? name = some (a, id, l))
      (c : Call) : Concerns s id (callStep name c)
  | limit {name : Text} {l : Logger} (h : s.logger? name = some (id, l)) (limit : Value) :
      Concerns s id (.setLimit name limit)
  | close {name : Text} {l : Logger} (h : s.logger? name = some (id, l)) :
      Concerns s id (.closeLogger name)
  | closeAdapter {name : Text} {a : Adapter} {l : Logger} (h : s.adapter? name = some (a, id, l)) :
      Concerns s id (.closeAdapter name)
  | clock (quarters : Int) : Concerns s id (.setClock quarters)
  | reload (env : Environment) : Concerns s id (.setEnvironment env)
  | settings (lengthUnit warnUnrestricted : Option Value) :
      Concerns s id (.setSettings lengthUnit warnUnrestricted)

inductive Employs (id : LoggerId) (s : Session) : Session → Prop
  | refl : Employs id s s
  | step {t : Session} {st : Step} (h : Employs id s t) (hst : t.Concerns id st) :
      Employs id s (t.step st).1
  | leave {t : Session} (h : Employs id s t) : Employs id s (t.closeLogger id)

theorem world_closeLogger (s : Session) (id : LoggerId) : (s.closeLogger id).world = s.world := by
  rw [closeLogger]
  split <;> rfl

theorem getElem?_closeLogger (s : Session) {id other : LoggerId} (h : other ≠ id) :
    (s.closeLogger id).loggers[other]? = s.loggers[other]? := by
  rw [closeLogger]
  split
  · exact List.getElem?_set_ne (Ne.symm h)
  · rfl

theorem closeLogger_of_closed (h : s.IsClosed id) : s.closeLogger id = s := by
  obtain ⟨l, hl, hsink⟩ := h
  rw [closeLogger, hl]
  dsimp only
  rw [Logger.close_of_closed hsink]
  exact after_self hl

theorem isClosed_closeLogger (h : id < s.loggers.length) : (s.closeLogger id).IsClosed id := by
  refine ⟨s.loggers[id].close, ?_, rfl⟩
  rw [closeLogger, List.getElem?_eq_getElem h]
  exact List.getElem?_set_self h

theorem getElem?_set_of_ne_or_eq {loggers : List Logger} {l l' : Logger} {other : LoggerId}
    (hl : loggers[id]? = some l) (h : other = id → l' = l) :
    (loggers.set other l')[id]? = some l := by
  by_cases ho : other = id
  · subst ho
    rw [h rfl, List.getElem?_set_self (List.getElem?_eq_some_iff.mp hl).1]
  · rw [List.getElem?_set_ne ho, hl]

theorem Change.length_le (h : s.Change t) : s.loggers.length ≤ t.loggers.length := by
  cases h with
  | around _ hl | notOpened _ hl => exact hl ▸ Nat.le_refl _
  | opened _ hl =>
    rw [hl, List.length_append]
    exact Nat.le_add_right _ _
  | logged _ _ hl | limited _ _ _ hl | closed _ _ hl =>
    exact Nat.le_of_eq (by rw [hl, List.length_set])

theorem Change.isClosed (h : s.Change t) (hs : s.IsClosed id) : t.IsClosed id := by
  obtain ⟨l, hl, hsink⟩ := hs
  cases h with
  | around _ heq | notOpened _ heq => exact ⟨l, heq ▸ hl, hsink⟩
  | opened _ heq =>
    refine ⟨l, ?_, hsink⟩
    rw [heq, List.getElem?_append_left (List.getElem?_eq_some_iff.mp hl).1, hl]
  | @logged other used l' _ _ _ _ hused hlog heq =>
    refine ⟨l, ?_, hsink⟩
    rw [heq]
    apply getElem?_set_of_ne_or_eq hl
    rintro rfl
    obtain rfl := Option.some.inj (hused.symm.trans hl)
    exact (Logger.log_of_closed hsink hlog).1
  | @limited other used limit hused _ heq =>
    by_cases ho : other = id
    · subst ho
      obtain rfl := Option.some.inj (hused.symm.trans hl)
      refine ⟨{ used with limit := limit }, ?_, hsink⟩
      rw [heq, List.getElem?_set_self (List.getElem?_eq_some_iff.mp hl).1]
    · refine ⟨l, ?_, hsink⟩
      rw [heq, List.getElem?_set_ne ho, hl]
  | @closed other used hused _ heq =>
    refine ⟨l, ?_, hsink⟩
    rw [heq]
    apply getElem?_set_of_ne_or_eq hl
    rintro rfl
    obtain rfl := Option.some.inj (hused.symm.trans hl)
    exact Logger.close_of_closed hsink

theorem step_keeps_loggers (s : Session) (h : st.isSingle) :
    ∃ t, s.Change t ∧ (s.step st).1.loggers = t.loggers := by
  obtain hk | ⟨t, name, a, id, hk, _, ht⟩ := step_change (s := s) h
  · exact ⟨_, hk.change, rfl⟩
  · exact ⟨t, hk.change, by rw [ht]⟩

theorem Reaches.length_le {past : List (Session × Step)} (h : s.Reaches past t) :
    s.loggers.length ≤ t.loggers.length := by
  induction h with
  | refl => exact Nat.le_refl _
  | step _ hst ih =>
    obtain ⟨u, hu, hl⟩ := step_keeps_loggers _ hst
    rw [hl]
    exact Nat.le_trans ih hu.length_le
  | close _ id ih => exact Nat.le_trans ih (keeps_closeLogger _ id).change.length_le

theorem Reaches.isClosed {past : List (Session × Step)} (h : s.Reaches past t)
    (hs : s.IsClosed id) : t.IsClosed id := by
  induction h with
  | refl => exact hs
  | step _ hst ih =>
    obtain ⟨u, hu, hl⟩ := step_keeps_loggers _ hst
    rw [IsClosed, hl]
    exact hu.isClosed ih
  | close _ other ih => exact (keeps_closeLogger _ other).change.isClosed ih

theorem Closes.exists_closeLogger (h : s.Closes id st) :
    ∃ past u, s.Reaches past u ∧ (s.step st).1 = u.closeLogger id ∧ id < u.loggers.length := by
  have hlength {l : Logger} (hl : s.loggers[id]? = some l) : id < s.loggers.length :=
    (List.getElem?_eq_some_iff.mp hl).1
  cases h with
  | logger h =>
    refine ⟨[], s, .refl, ?_, hlength (getElem?_of_logger? h)⟩
    rw [step, h]
  | adapter h =>
    refine ⟨[], s, .refl, ?_, hlength (getElem?_of_adapter? h).2⟩
    rw [step, h]
  | block h steps =>
    obtain ⟨past, hr⟩ := Reaches.refl.exists_run steps
    refine ⟨past, _, hr, ?_, Nat.lt_of_lt_of_le (hlength (getElem?_of_adapter? h).2) hr.length_le⟩
    rw [step, h]

theorem Concerns.silent (h : s.Concerns id st) (hs : s.IsClosed id) :
    (s.step st).1.IsClosed id ∧ (s.step st).1.world.disk = s.world.disk ∧
      (s.step st).1.world.streams = s.world.streams := by
  have hsingle : st.isSingle := by
    cases h with
    | call h c => cases c <;> rfl
    | _ => rfl
  refine ⟨(Reaches.refl.step hsingle).isClosed hs, ?_⟩
  obtain ⟨l, hl, hsink⟩ := hs
  have hcalled {w : World} {l' : Logger} {level : Level} {message : Value}
      {context : List (Value × Value)} {failure : Option LogError} {used : Logger}
      (hused : s.loggers[id]? = some used)
      (hlog : used.log level message context s.world = (w, l', failure)) :
      w.disk = s.world.disk ∧ w.streams = s.world.streams := by
    obtain rfl := Option.some.inj (hused.symm.trans hl)
    exact (Logger.log_of_closed hsink hlog).2
  cases h with
  | log h level message context =>
    rw [step, Session.log, h]
    dsimp only
    split
    · exact ⟨rfl, rfl⟩
    · split <;> exact hcalled (getElem?_of_logger? h) (by assumption)
  | call h c =>
    rw [step_callStep, withAdapter, h]
    dsimp only
    split
    · exact ⟨rfl, rfl⟩
    · rw [Call.perform_eq]
      split
      · exact ⟨rfl, rfl⟩
      · split <;> exact hcalled (getElem?_of_adapter? h).2 (by assumption)
  | limit h limit =>
    rw [step, h]
    dsimp only
    split <;> exact ⟨rfl, rfl⟩
  | close h | closeAdapter h =>
    rw [step, h]
    dsimp only
    rw [world_closeLogger]
    exact ⟨rfl, rfl⟩
  | settings =>
    rw [step]
    dsimp only
    split <;> exact ⟨rfl, rfl⟩
  | clock | reload =>
    rw [step]
    exact ⟨rfl, rfl⟩

theorem Employs.silent (h : s.Employs id t) (hs : s.IsClosed id) :
    t.IsClosed id ∧ t.world.disk = s.world.disk ∧ t.world.streams = s.world.streams := by
  induction h with
  | refl => exact ⟨hs, rfl, rfl⟩
  | step _ hst ih =>
    obtain ⟨hclosed, hdisk, hstreams⟩ := ih
    obtain ⟨hclosed', hdisk', hstreams'⟩ := hst.silent hclosed
    exact ⟨hclosed', hdisk'.trans hdisk, hstreams'.trans hstreams⟩
  | leave _ ih =>
    rw [closeLogger_of_closed ih.1]
    exact ih

/-- A logger that was closed has no handle in any later session, and however it is used there the
disk and the streams stay as they are. Closing touches nothing but its handle, so the loggers that
share its stream go on writing there. -/
theorem closed_stays_silent (h : s.Closes id st) :
    (∃ past u, s.Reaches past u ∧ (s.step st).1 = u.closeLogger id ∧
      (s.step st).1.world = u.world ∧
      ∀ other, other ≠ id → (s.step st).1.loggers[other]? = u.loggers[other]?) ∧
    ∀ {past : List (Session × Step)} {t : Session}, (s.step st).1.Reaches past t →
      t.IsClosed id ∧ t.closeLogger id = t ∧
      (∀ {u : Session}, t.Employs id u →
        u.world.disk = t.world.disk ∧ u.world.streams = t.world.streams) ∧
      ∀ {other : LoggerId} {m : Logger} {name : Text}, other ≠ id →
        t.loggers[other]? = some m → m.IsAtStream name →
        ∀ {level : Level} {message : Value} {context : List (Value × Value)} {line : Text},
          m.line t.world.now level message context = .ok line →
          ∃ w, m.log level message context t.world = (w, m, none) ∧
            w.stream name = t.world.stream name ++ (line ++ [CodePoint.newline]) := by
  obtain ⟨past, u, hreached, heq, hlength⟩ := h.exists_closeLogger
  refine ⟨⟨past, u, hreached, heq, ?_, ?_⟩, ?_⟩
  · rw [heq, world_closeLogger]
  · intro other ho
    rw [heq, getElem?_closeLogger u ho]
  intro past t hr
  have hclosed : t.IsClosed id := hr.isClosed (heq ▸ isClosed_closeLogger hlength)
  refine ⟨hclosed, closeLogger_of_closed hclosed, ?_, ?_⟩
  · intro u hu
    exact (hu.silent hclosed).2
  · intro other m name _ _ hm level message context line hline
    have hlog := hm.log_of_line hline
    exact ⟨_, hlog, hm.stream_deliver line t.world⟩

end Session

namespace Silenced

open Session

def steps : List Step :=
  Refused.toStream ++ [.openLogger "m" (Refused.options (.stream "out") (.int 5)),
    .openAdapter "p" (some "l") .null .null]

def start : Session := Refused.start.advance steps

def adapter : Adapter := ⟨.utf8, .bool true⟩

def block : Step := .within "p" [.nullTerminated "p" (.text [0x61, 0]), .toHost "p" (.text "x")]

def left : Session := (start.step block).1

def call : Step := .toHost "p" (.text "C:\\x")

theorem silent_after_block : left.IsClosed 0 ∧ left.closeLogger 0 = left ∧
    (left.step call).1.world.disk = left.world.disk ∧
    (left.step call).1.world.streams = left.world.streams ∧
    ∃ line w, Refused.logger.log .info (.text "m") [] left.world = (w, Refused.logger, none) ∧
      w.stream "out" = left.world.stream "out" ++ (line ++ [CodePoint.newline]) := by
  have ha : start.adapter? "p" = some (adapter, 0, Refused.logger) := rfl
  have hr : (start.step block).1.Reaches [] left := .refl
  obtain ⟨_, hlater⟩ := closed_stays_silent (.block ha _)
  obtain ⟨hclosed, hagain, hsilent, hothers⟩ := hlater hr
  have hcall : left.Employs 0 (left.step call).1 :=
    .step .refl (.call (l := Refused.logger.close) rfl (.toHost (.text "C:\\x")))
  obtain ⟨hdisk, hstreams⟩ := hsilent hcall
  have hm : left.loggers[1]? = some Refused.logger := rfl
  have hline : ∃ line, Refused.logger.line left.world.now .info (.text "m") [] = .ok line := by
    have hnow : left.world.now = 0 := rfl
    rw [hnow]
    cbv
    exact ⟨_, rfl⟩
  obtain ⟨line, hline⟩ := hline
  obtain ⟨w, hlog, hstream⟩ := hothers (by decide) hm ⟨rfl, rfl⟩ hline
  exact ⟨hclosed, hagain, hdisk, hstreams, line, w, hlog, hstream⟩

end Silenced

end DriveBridge
