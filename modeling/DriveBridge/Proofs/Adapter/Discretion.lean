import DriveBridge.Proofs.Adapter.Record
import DriveBridge.Proofs.Path.Segments

namespace DriveBridge

open CodePoint Adapter Entry

theorem HostPath.lastPart_lastSegment (p : HostPath) :
    p.lastSegment.lastPart = p.text.lastPart := by
  rw [lastSegment_eq]
  apply Text.takeBackWhile_takeBackWhile
  intro c hc
  simp_all [isSeparator]

theorem HostPath.any_isSeparator_lastSegment (p : HostPath) :
    p.lastSegment.any isSeparator ↔ backslash ∈ Text.takeBackWhile (· != slash) p.text := by
  have hslash : slash ∉ Text.takeBackWhile (· != slash) p.text := by
    intro hm
    have := List.mem_takeWhile_imp (List.mem_reverse.mp hm)
    simp at this
  rw [lastSegment_eq, List.any_eq_true]
  constructor
  · rintro ⟨c, hm, hc⟩
    rw [isSeparator, Bool.or_eq_true, beq_iff_eq, beq_iff_eq] at hc
    rcases hc with rfl | rfl
    · exact absurd hm hslash
    · exact hm
  · intro hm
    exact ⟨backslash, hm, rfl⟩

namespace Redactor

variable {r : Redactor}

theorem shownText_congr (hr : r.enabled.isTrue) (k : Text) {t u : Text}
    (hlast : t.lastPart = u.lastPart) (hany : t.any isSeparator = u.any isSeparator) :
    r.shownText k t = r.shownText k u := by
  rw [shownText, shownText, redactPath_eq hr, redactPath_eq hr, hlast, hany]

theorem shownText_cases (hr : r.enabled.isTrue) (k t : Text) : r.shownText k t = mark ∨
    r.shownText k t = t.lastPart ∨ r.shownText k t = mark ++ slash :: t.lastPart := by
  rw [shownText, redactPath_eq hr]
  split
  · exact .inl rfl
  split
  · exact .inr (.inr rfl)
  · exact .inr (.inl rfl)

end Redactor

namespace Adapter.Report

variable {r q : Report} {l : Logger}

def key : Report → Text
  | foreign _ => "source"
  | embeddedNul _ _ => "target"

def path : Report → Text
  | foreign t => t
  | embeddedNul t _ => t

theorem log_congr (hlevel : r.level = q.level) (hmessage : r.message = q.message)
    (hshown : r.shown l.redactor = q.shown l.redactor) (w : World) : r.log l w = q.log l w := by
  have hentry : l.entry w.now r.level (.text r.message) r.context =
      l.entry w.now q.level (.text q.message) q.context := by
    rw [Logger.entry, Logger.entry, r.isContextKey_context, q.isContextKey_context,
      redactEntries_context, redactEntries_context, hlevel, hmessage, hshown]
  rw [log, log, Logger.log, Logger.log, Logger.line, Logger.line, hentry]

theorem foreign_congr {t u : Text} (hr : l.redactor.enabled.isTrue)
    (hlast : t.lastPart = u.lastPart) (ht : t.any isSeparator) (hu : u.any isSeparator)
    (w : World) : (foreign t).log l w = (foreign u).log l w := by
  apply log_congr
  · rfl
  · rfl
  · rw [shown, shown, Redactor.shownText_congr hr _ hlast (ht.trans hu.symm)]

theorem embeddedNul_congr {t u : Text} (hr : l.redactor.enabled.isTrue)
    (hlast : t.lastPart = u.lastPart)
    (hback : backslash ∈ Text.takeBackWhile (· != slash) t ↔
      backslash ∈ Text.takeBackWhile (· != slash) u) (i : Nat) (w : World) :
    (embeddedNul t i).log l w = (embeddedNul u i).log l w := by
  have hsegment : (HostPath.mk t).lastSegment.lastPart = (HostPath.mk u).lastSegment.lastPart := by
    rw [HostPath.lastPart_lastSegment, HostPath.lastPart_lastSegment]
    exact hlast
  have hany : (HostPath.mk t).lastSegment.any isSeparator =
      (HostPath.mk u).lastSegment.any isSeparator := by
    rw [Bool.eq_iff_iff, HostPath.any_isSeparator_lastSegment,
      HostPath.any_isSeparator_lastSegment]
    exact hback
  apply log_congr
  · rfl
  · rfl
  · rw [shown, shown, Redactor.shownText_congr hr _ hsegment hany]

theorem exists_shown (r : Report) (hr : l.redactor.enabled.isTrue) (now : Int) :
    ∃ t, member? r.key (r.entry l now) = some (.text t) ∧
      (t = Redactor.mark ∨ t = r.path.lastPart ∨
        t = Redactor.mark ++ slash :: r.path.lastPart) := by
  cases r with
  | foreign t =>
    refine ⟨_, member?_entry _ _ (List.mem_singleton_self _), ?_⟩
    exact Redactor.shownText_cases hr "source" t
  | embeddedNul t i =>
    refine ⟨_, member?_entry _ _ List.mem_cons_self, ?_⟩
    have hcases := Redactor.shownText_cases hr "target" (HostPath.mk t).lastSegment
    rwa [HostPath.lastPart_lastSegment] at hcases

end Adapter.Report

namespace Session

variable {s : Session} {name : Text} {a : Adapter} {id : LoggerId} {l : Logger}

theorem step_call_fst (h : s.adapter? name = some (a, id, l)) {c : Call} (hc : c.path.isSound) :
    (s.step (callStep name c)).1 = match c.report? a with
      | none => s
      | some r => s.after id (r.log l s.world).1 (r.log l s.world).2.1 := by
  rw [step_call h hc, Call.perform_eq]
  cases c.report? a with
  | none => exact after_self (getElem?_of_adapter? h).2
  | some r =>
    dsimp only
    obtain ⟨w, l', failure⟩ := r.log l s.world
    cases failure <;> rfl

theorem toHost_fst_of_foreign (h : s.adapter? name = some (a, id, l)) {t : Text} {p : Value}
    (hp : p = .text t ∨ p = .client ⟨t⟩) (ht : t.HasForeignPrefix) :
    (s.step (.toHost name p)).1 = if a.warnUnrestricted.isTrue then
      s.after id ((Report.foreign t).log l s.world).1 ((Report.foreign t).log l s.world).2.1
      else s := by
  have hsound : (Call.toHost p).path.isSound := by rcases hp with rfl | rfl <;> rfl
  have hrestricted := (ClientPath.isRestricted_eq_false_iff ⟨t⟩).mpr ht
  have hstep := step_call_fst h hsound
  rw [Call.report?, Call.clientPath_eq_ok_iff.mpr hp] at hstep
  dsimp only at hstep
  rw [hrestricted, Bool.not_false, Bool.and_true] at hstep
  refine hstep.trans ?_
  cases a.warnUnrestricted.isTrue <;> rfl

theorem nullTerminated_fst (h : s.adapter? name = some (a, id, l)) {t : Text} {p : Value}
    (hp : p = .text t ∨ p = .host ⟨t⟩) :
    (s.step (.nullTerminated name p)).1 = match EmbeddedNul.index? t with
      | none => s
      | some i => s.after id ((Report.embeddedNul t i).log l s.world).1
          ((Report.embeddedNul t i).log l s.world).2.1 := by
  have hsound : (Call.nullTerminated p).path.isSound := by rcases hp with rfl | rfl <;> rfl
  have hstep := step_call_fst h hsound
  rw [Call.report?, Call.hostPath_eq_ok_iff.mpr hp] at hstep
  refine hstep.trans ?_
  dsimp only
  cases EmbeddedNul.index? t <;> rfl

/-- With redaction on, what a call leaves behind depends on the last part of its path, and for a
target on a backslash behind its last slash; the path is in no entry but by its last part or the
mark. -/
theorem log_discreet (h : s.adapter? name = some (a, id, l)) (hr : l.redactor.enabled.isTrue) :
    (∀ (t u : Text) (p q : Value), p = .text t ∨ p = .client ⟨t⟩ → q = .text u ∨ q = .client ⟨u⟩ →
      t.HasForeignPrefix → u.HasForeignPrefix → t.any isSeparator → u.any isSeparator →
      t.lastPart = u.lastPart → (s.step (.toHost name p)).1 = (s.step (.toHost name q)).1) ∧
    (∀ (t u : Text) (p q : Value), p = .text t ∨ p = .host ⟨t⟩ → q = .text u ∨ q = .host ⟨u⟩ →
      EmbeddedNul.index? t = EmbeddedNul.index? u → t.lastPart = u.lastPart →
      (backslash ∈ Text.takeBackWhile (· != slash) t ↔
        backslash ∈ Text.takeBackWhile (· != slash) u) →
      (s.step (.nullTerminated name p)).1 = (s.step (.nullTerminated name q)).1) ∧
    ∀ c : Call, (s.step (callStep name c)).1 = s ∨ ∃ r entry line, Call.Reports a c r ∧
      l.entry s.world.now r.level (.text r.message) r.context = .ok entry ∧
      JsonText.write? (.table entry) = some line ∧
      (s.step (callStep name c)).1 =
        s.after id (l.deliver line s.world).1 (l.deliver line s.world).2.1 ∧
      ∃ t, member? r.key entry = some (.text t) ∧
        (t = Redactor.mark ∨ t = r.path.lastPart ∨
          t = Redactor.mark ++ slash :: r.path.lastPart) := by
  refine ⟨?_, ?_, ?_⟩
  · intro t u p q hp hq ht hu hany hany' hlast
    rw [toHost_fst_of_foreign h hp ht, toHost_fst_of_foreign h hq hu,
      Report.foreign_congr hr hlast hany hany']
  · intro t u p q hp hq hindex hlast hback
    rw [nullTerminated_fst h hp, nullTerminated_fst h hq, hindex]
    cases EmbeddedNul.index? u with
    | none => rfl
    | some i =>
      dsimp only
      rw [Report.embeddedNul_congr hr hlast hback]
  · intro c
    obtain ⟨hs, _⟩ | ⟨r, hreports, ⟨_, hs⟩ | ⟨line, hstamp, hline, hs⟩⟩ := call_cases h c
    · exact .inl hs
    · exact .inl (congrArg Prod.fst hs)
    · obtain ⟨t, ht, hcases⟩ := r.exists_shown hr s.world.now
      refine .inr ⟨r, _, line, hreports, r.entry_eq l hstamp, hline, ?_, t, ht, hcases⟩
      rw [hs]
      obtain ⟨w, l', failure⟩ := l.deliver line s.world
      cases failure <;> rfl

end Session

namespace Discreet

open Session Recording

theorem discreet_on_stream :
    (start.step (.toHost "p" (.text "C:\\alice\\x"))).1 =
      (start.step (.toHost "p" (.client ⟨"//bob/x"⟩))).1 ∧
    (start.step (.nullTerminated "p" (.text [0x61, 0, 0x5C, 0x78]))).1 =
      (start.step (.nullTerminated "p" (.host ⟨[0x2F, 0, 0x62, 0x5C, 0x78]⟩))).1 := by
  have h : start.adapter? "p" = some (adapter, 0, Refused.logger) := rfl
  obtain ⟨hsource, htarget, _⟩ := log_discreet h rfl
  constructor
  · exact hsource _ _ _ _ (.inl rfl) (.inr rfl)
      ⟨0x43, 0x3A, "\\alice\\x", rfl, .inl ⟨rfl, rfl⟩⟩
      ⟨0x2F, 0x2F, "bob/x", rfl, .inr ⟨rfl, rfl⟩⟩ rfl rfl rfl
  · exact htarget _ _ _ _ (.inl rfl) (.inr rfl) rfl rfl (by decide)

end Discreet

end DriveBridge
