import DriveBridge.Proofs.Json.Writable
import DriveBridge.Proofs.Redaction.Refusal
import DriveBridge.Session.Run

namespace DriveBridge

def LogError.isMistyped : LogError → Bool
  | .entry .beyondCalendar => false
  | .entry _ => true
  | .notNumber => true
  | .disk _ => false
  | .closedFile => false

def Failure.isMistyped : Failure → Bool
  | .log cause => cause.isMistyped
  | .notText | .notPath | .unsound => true
  | .embeddedNul _ | .unit _ | .disk _ | .unencodable _ | .unknownName => false

namespace Logger

variable {l l' : Logger} {w w' : World} {now : Int} {level : Level} {message : Value}
  {context : List (Value × Value)}

structure IsNumeric (l : Logger) : Prop where
  limit : l.limit.isTrue → ∀ n, (l.limit.bounds? n).isSome
  keep : l.keep.integer?.isSome

def HasBadKey (context : List (Value × Value)) : Prop :=
  ∃ e ∈ context, ∀ t, e.1 = .text t → t ∈ Entry.reserved

def HasNamelessKey (l : Logger) (context : List (Value × Value)) : Prop :=
  ∃ es, l.redactor.ComesTo context es ∧ ∃ e ∈ es, e.1.isNameLike = false

def HasUnwritableKey (l : Logger) (now : Int) (level : Level) (message : Value)
    (context : List (Value × Value)) : Prop :=
  ∃ shown, l.redactor.redactEntries context = some shown ∧
    ∃ es, (Value.table (Entry.extend
      (Entry.base level l.component l.session l.started now message) shown)).Holds es ∧
      ∃ e ∈ es, e.1.isScalar = false

theorem hasBadKey_iff : HasBadKey context ↔ context.all (Entry.isContextKey ·.1) = false := by
  have hkey (k : Value) : (∀ t, k = .text t → t ∈ Entry.reserved) ↔
      Entry.isContextKey k = false := by
    cases k
    case text t =>
      rw [Entry.isContextKey, decide_eq_false_iff_not, Classical.not_not]
      exact ⟨fun h => h t rfl, fun h _ hs => Value.text.inj hs ▸ h⟩
    all_goals exact iff_of_true nofun rfl
  rw [HasBadKey, List.all_eq_false]
  simp only [hkey, Bool.not_eq_true]

theorem hasNamelessKey_iff :
    l.HasNamelessKey context ↔ l.redactor.redactEntries context = none := by
  rw [← Option.not_isSome_iff_eq_none, Redactor.redactEntries_isSome_iff]
  simp only [HasNamelessKey, Classical.not_forall, Bool.not_eq_true, exists_prop]

theorem hasUnwritableKey_iff {shown : List (Value × Value)}
    (h : l.redactor.redactEntries context = some shown) :
    l.HasUnwritableKey now level message context ↔
      JsonText.write? (.table (Entry.extend
        (Entry.base level l.component l.session l.started now message) shown)) = none := by
  rw [← Option.not_isSome_iff_eq_none, JsonText.write?_isSome_iff]
  simp only [HasUnwritableKey, h, Option.some.injEq, exists_eq_left', Classical.not_forall,
    Bool.not_eq_true, exists_prop]

theorem line_refused_iff :
    (∃ cause, l.line now level message context = .error cause ∧ cause ≠ .beyondCalendar) ↔
      HasBadKey context ∨ l.HasNamelessKey context ∨
        Calendar.hasStamp (now / 4) ∧ l.HasUnwritableKey now level message context := by
  rw [hasBadKey_iff, hasNamelessKey_iff, line, entry]
  cases hkeys : context.all (Entry.isContextKey ·.1) with
  | false => simp
  | true =>
    cases hshown : l.redactor.redactEntries context with
    | none => simp
    | some shown =>
      rw [hasUnwritableKey_iff hshown]
      cases hstamp : Calendar.hasStamp (now / 4) with
      | false => simp
      | true =>
        cases hwrite : JsonText.write? (.table (Entry.extend
          (Entry.base level l.component l.session l.started now message) shown)) <;> simp [hwrite]

theorem isSome_isDue? {limit : Value} (h : limit.isTrue → ∀ n, (limit.bounds? n).isSome)
    (p : Location) (d : Disk) : (Rotation.isDue? p limit d).isSome := by
  rw [Rotation.isDue?]
  split
  · rename_i hlimit
    split
    · rw [Option.isSome_map]
      exact h hlimit _
    · rfl
  · rfl

theorem isMistyped_makeRoom {d d' : Disk} {cause : LogError} (hl : l.path.isSome → l.IsNumeric)
    (h : l.makeRoom d = (d', l', some cause)) : cause.isMistyped = false := by
  rw [makeRoom] at h
  split at h
  · cases h
  · rename_i p hpath
    have hl := hl (by rw [hpath]; rfl)
    have hdue := isSome_isDue? hl.limit p d
    split at h
    · rename_i hnone
      rw [hnone] at hdue
      cases hdue
    · cases h
    · rename_i hnone
      have hkeep := hl.keep
      rw [hnone] at hkeep
      cases hkeep
    · dsimp only at h
      split at h <;> cases h
      rfl

theorem isMistyped_put {t : Text} {cause : LogError} (h : l.put t w = (w', some cause)) :
    cause.isMistyped = false := by
  rw [put] at h
  split at h <;> cases h
  rfl

theorem isMistyped_deliver {line : Text} {cause : LogError} (hl : l.path.isSome → l.IsNumeric)
    (h : l.deliver line w = (w', l', some cause)) : cause.isMistyped = false := by
  rw [deliver] at h
  dsimp only at h
  split at h
  · cases h
  · split at h
    · rename_i hm
      cases h
      exact isMistyped_makeRoom hl hm
    · simp only [Prod.mk.injEq] at h
      exact isMistyped_put (Prod.ext rfl h.2.2)

theorem log_mistyped (hl : l.path.isSome → l.IsNumeric) {cause : LogError}
    (h : l.log level message context w = (w', l', some cause)) (hc : cause.isMistyped) :
    w' = w ∧ l' = l ∧ ∃ refusal, l.line w.now level message context = .error refusal ∧
      refusal ≠ .beyondCalendar := by
  rw [log] at h
  split at h
  · rw [isMistyped_deliver hl h] at hc
    cases hc
  · rename_i refusal hline
    cases h
    refine ⟨rfl, rfl, refusal, hline, ?_⟩
    rintro rfl
    cases hc

theorem log_of_line_error {refusal : EntryError}
    (h : l.line w.now level message context = .error refusal) :
    l.log level message context w = (w, l, some (.entry refusal)) := by
  rw [log, h]

end Logger

namespace Session

variable {s : Session} {name : Text} {id : LoggerId} {l : Logger}

theorem getElem?_of_logger? (h : s.logger? name = some (id, l)) : s.loggers[id]? = some l := by
  obtain ⟨_, _, h⟩ := Option.bind_eq_some_iff.mp h
  obtain ⟨_, hl, h⟩ := Option.bind_eq_some_iff.mp h
  cases h
  exact hl

theorem after_logger (h : s.loggers[id]? = some l) (w : World) :
    s.after id w l = { s with world := w } := by
  obtain ⟨hid, hl⟩ := List.getElem?_eq_some_iff.mp h
  rw [after, setLogger, ← hl, List.set_getElem_self]

theorem after_self (h : s.loggers[id]? = some l) : s.after id s.world l = s :=
  after_logger h s.world

theorem log_eq_error_iff (h : s.logger? name = some (id, l)) {level : Level} {message : Value}
    {context : List (Value × Value)} (hm : message.isSound) (hc : (Value.table context).isSound)
    {t : Session} {cause : Failure} :
    s.step (.log name level message context) = (t, .error cause) ↔
      ∃ w l' failure, l.log level message context s.world = (w, l', some failure) ∧
        t = s.after id w l' ∧ cause = .log failure := by
  have hsound : (!(message.isSound && (Value.table context).isSound)) = false := by
    rw [hm, hc]
    rfl
  rw [step, log, h]
  dsimp only
  rw [hsound, if_neg Bool.false_ne_true]
  obtain ⟨w, l', failure⟩ := l.log level message context s.world
  cases failure with
  | none => simp
  | some failure =>
    constructor
    · intro he
      obtain ⟨rfl, hcause⟩ := Prod.mk.inj he
      exact ⟨w, l', failure, rfl, rfl, (Except.error.inj hcause).symm⟩
    · rintro ⟨_, _, _, ⟨⟩, rfl, rfl⟩
      rfl

/-- A call is refused for its kind exactly if a key in it is of no use to the call, to redaction or
to JSON, and then the session stays as it was. At an instant without a stamp there is no entry that
JSON could refuse. -/
theorem log_refused_iff (h : s.logger? name = some (id, l)) (hl : l.path.isSome → l.IsNumeric)
    (level : Level) {message : Value} {context : List (Value × Value)} (hm : message.isSound)
    (hc : (Value.table context).isSound) :
    ((∃ cause, (s.step (.log name level message context)).2 = .error cause ∧ cause.isMistyped) ↔
      Logger.HasBadKey context ∨ l.HasNamelessKey context ∨
        Calendar.hasStamp (s.world.now / 4) ∧
          l.HasUnwritableKey s.world.now level message context) ∧
    ∀ cause, (s.step (.log name level message context)).2 = .error cause → cause.isMistyped →
      (s.step (.log name level message context)).1 = s := by
  have hfailed {cause : Failure}
      (hs : (s.step (.log name level message context)).2 = .error cause)
      (hcause : cause.isMistyped) : (s.step (.log name level message context)).1 = s ∧
        ∃ refusal, l.line s.world.now level message context = .error refusal ∧
          refusal ≠ .beyondCalendar := by
    obtain ⟨w, l', failure, hlog, ht, rfl⟩ := (log_eq_error_iff h hm hc).mp (Prod.ext rfl hs)
    obtain ⟨rfl, rfl, hline⟩ := Logger.log_mistyped hl hlog hcause
    exact ⟨ht.trans (after_self (getElem?_of_logger? h)), hline⟩
  refine ⟨?_, fun cause hs hcause => (hfailed hs hcause).1⟩
  rw [← Logger.line_refused_iff]
  constructor
  · rintro ⟨cause, hs, hcause⟩
    exact (hfailed hs hcause).2
  · rintro ⟨refusal, hline, hrefusal⟩
    refine ⟨.log (.entry refusal), ?_, ?_⟩
    · rw [(log_eq_error_iff h hm hc).mpr ⟨_, _, _, Logger.log_of_line_error hline, rfl, rfl⟩]
    · cases refusal
      case beyondCalendar => exact absurd rfl hrefusal
      all_goals rfl

end Session

namespace Refused

def options (output : Output) (maxFiles : Value) : LoggerOptions :=
  ⟨"c", "s", output, .make (.bool true) [], .null, maxFiles, .bool true⟩

def start : Session := .start 0 [] ⟨[]⟩

def toStream : List Step := [.openLogger "l" (options (.stream "out") (.int 5))]

def logger : Logger :=
  (options (.stream "out") (.int 5)).loggerAt .null start.world none (some (.stream "out"))

def toFile (maxFiles : Value) : List Step :=
  [.putFile "a.log" "ab", .openLogger "l" (options (.file (.ofText "a.log")) maxFiles),
    .setLimit "l" (.int 1)]

def fileLogger : Logger :=
  (options (.file (.ofText "a.log")) (.int 5)).loggerAt (.int 1) start.world
    (some (.ofText "a.log")) (some (.file 0))

theorem isNumeric_fileLogger : fileLogger.IsNumeric := by
  constructor
  · exact fun _ _ => rfl
  · rfl

def octetKey : List (Value × Value) := [(.text "d", .list [.table [(.octets [1], .null)]])]

theorem refused_octet_key :
    (∃ cause, ((start.advance (toFile (.int 5))).step (.log "l" .info (.text "m") octetKey)).2 =
      .error cause ∧ cause.isMistyped) ∧
    ((start.advance (toFile (.int 5))).step (.log "l" .info (.text "m") octetKey)).1 =
      start.advance (toFile (.int 5)) := by
  have hl : (start.advance (toFile (.int 5))).logger? "l" = some (0, fileLogger) := rfl
  have hshown : fileLogger.redactor.redactEntries octetKey = some octetKey := rfl
  have hunwritable : fileLogger.HasUnwritableKey 0 .info (.text "m") octetKey :=
    (Logger.hasUnwritableKey_iff hshown).mpr (by decide +kernel)
  have hmessage : (Value.text "m").isSound := rfl
  have hcontext : (Value.table octetKey).isSound := rfl
  obtain ⟨hiff, hsame⟩ :=
    Session.log_refused_iff hl (fun _ => isNumeric_fileLogger) .info hmessage hcontext
  obtain ⟨cause, hcause, hmistyped⟩ := hiff.mpr (.inr (.inr ⟨by decide +kernel, hunwritable⟩))
  exact ⟨⟨cause, hcause, hmistyped⟩, hsame cause hcause hmistyped⟩

def tupleKey : Value := .table [(.tuple [], .null)]

/-- Without a number of files a due rotation fails for its kind although the call is in order, and
its line is on the console. Beyond the calendar a call that JSON could not write fails otherwise. -/
theorem mistyped_otherwise :
    (∃ l, (start.advance (toFile .null)).logger? "l" = some (0, l) ∧
      (∃ cause, ((start.advance (toFile .null)).step (.log "l" .info (.text "m") [])).2 = .error cause ∧
        cause.isMistyped) ∧
      ¬ Logger.HasBadKey [] ∧ ¬ l.HasNamelessKey [] ∧
      ¬ l.HasUnwritableKey 0 .info (.text "m") [] ∧
      ((start.advance (toFile .null)).step (.log "l" .info (.text "m") [])).1.world.console ≠
        (start.advance (toFile .null)).world.console) ∧
    ∃ l now, (start.advance (toStream ++ [.setClock now])).logger? "l" = some (0, l) ∧
      l.HasUnwritableKey now .info tupleKey [] ∧
      ∀ cause, ((start.advance (toStream ++ [.setClock now])).step
        (.log "l" .info tupleKey [])).2 = .error cause → ¬ cause.isMistyped := by
  constructor
  · refine ⟨_, rfl, ?_, ?_, ?_, ?_, ?_⟩
    · refine ⟨.log .notNumber, ?_, rfl⟩
      rfl
    · rintro ⟨e, ⟨⟩, _⟩
    · rw [Logger.hasNamelessKey_iff]
      nofun
    · rw [Logger.hasUnwritableKey_iff rfl]
      decide +kernel
    · decide +kernel
  · refine ⟨_, 1000000000000000000, rfl, ?_, ?_⟩
    · rw [Logger.hasUnwritableKey_iff rfl]
      decide +kernel
    · have h : ((start.advance (toStream ++ [.setClock 1000000000000000000])).step
        (.log "l" .info tupleKey [])).2 = .error (.log (.entry .beyondCalendar)) := rfl
      rw [h]
      rintro cause ⟨⟩ ⟨⟩

end Refused

end DriveBridge
