import DriveBridge.Proofs.Adapter.Reports

namespace DriveBridge

def Step.isSingle : Step → Bool
  | within _ _ => false
  | _ => true

namespace Session

variable {s : Session}

/-- The sessions that a session comes to, inside of blocks as well, with the single steps behind it
and the session that each was made in, the last one first. A block does nothing of its own but to
close a logger at its end. -/
inductive Reaches (s : Session) : List (Session × Step) → Session → Prop
  | refl : Reaches s [] s
  | step {past : List (Session × Step)} {t : Session} {st : Step} (h : Reaches s past t)
      (hst : st.isSingle) : Reaches s ((t, st) :: past) (t.step st).1
  | close {past : List (Session × Step)} {t : Session} (h : Reaches s past t) (id : LoggerId) :
      Reaches s past (t.closeLogger id)

mutual

theorem Reaches.exists_step {past : List (Session × Step)} {t : Session} (h : s.Reaches past t)
    (st : Step) : ∃ past, s.Reaches past (t.step st).1 := by
  cases st with
  | within name steps =>
    rw [Session.step]
    cases t.adapter? name with
    | none => exact ⟨past, h⟩
    | some found =>
      obtain ⟨past, hr⟩ := h.exists_run steps
      exact ⟨past, hr.close _⟩
  | _ => exact ⟨_, h.step rfl⟩

theorem Reaches.exists_run {past : List (Session × Step)} {t : Session} (h : s.Reaches past t)
    (steps : List Step) : ∃ past, s.Reaches past (t.run steps).1 := by
  cases steps with
  | nil =>
    rw [run]
    exact ⟨past, h⟩
  | cons st steps =>
    obtain ⟨past, hst⟩ := h.exists_step st
    rw [run]
    split
    · rename_i hr
      rw [hr] at hst
      exact ⟨past, hst⟩
    · rename_i u answer hr
      rw [hr] at hst
      obtain ⟨past, hrest⟩ := hst.exists_run steps
      split <;> rename_i hr <;> rw [hr] at hrest <;> exact ⟨past, hrest⟩

end

def trail (s : Session) (past : List (Session × Step)) : List Step → List (Session × Step)
  | [] => past
  | st :: steps => (s.step st).1.trail ((s, st) :: past) steps

theorem Reaches.advance {past : List (Session × Step)} {t : Session} (h : s.Reaches past t)
    (steps : List Step) (hs : ∀ st ∈ steps, st.isSingle) :
    s.Reaches (t.trail past steps) (t.advance steps) := by
  induction steps generalizing past t with
  | nil => exact h
  | cons st steps ih =>
    obtain ⟨hst, hs⟩ := List.forall_mem_cons.mp hs
    exact ih (h.step hst) hs

inductive DiskChange (d : Disk) : Disk → Prop
  | same : DiskChange d d
  | made (t : Text) : DiskChange d (d.makeWritten t).1
  | opened (t : Text) : DiskChange d (d.openWritten t).1
  | written (t : Text) (id : FileId) (octets : List UInt8) :
      DiskChange d ((d.openWritten t).1.overwrite id octets)
  | removed {t : Text} {e : Disk} (h : d.unlink t = .ok e) : DiskChange d e

inductive Change (s t : Session) : Prop
  | around (hw : DiskChange s.world.disk t.world.disk) (hl : t.loggers = s.loggers)
  | opened {o : LoggerOptions} {l : Logger} (hw : o.make s.world = (t.world, .ok l))
      (hl : t.loggers = s.loggers ++ [l])
  | notOpened {o : LoggerOptions} {cause : LogError} (hw : o.make s.world = (t.world, .error cause))
      (hl : t.loggers = s.loggers)
  | logged {id : LoggerId} {l l' : Logger} {level : Level} {message : Value}
      {context : List (Value × Value)} {failure : Option LogError} (h : s.loggers[id]? = some l)
      (hw : l.log level message context s.world = (t.world, l', failure))
      (hl : t.loggers = s.loggers.set id l')
  | limited {id : LoggerId} {l : Logger} (limit : Value) (h : s.loggers[id]? = some l)
      (hw : t.world = s.world) (hl : t.loggers = s.loggers.set id { l with limit := limit })
  | closed {id : LoggerId} {l : Logger} (h : s.loggers[id]? = some l) (hw : t.world = s.world)
      (hl : t.loggers = s.loggers.set id l.close)

structure Keeps (s t : Session) : Prop where
  change : s.Change t
  adapters : t.adapters = s.adapters

structure Makes (s : Session) (st : Step) (name : Text) (a : Adapter) : Prop where
  step : ∃ logger lengthUnit warnUnrestricted,
    st = .openAdapter name logger lengthUnit warnUnrestricted ∧
      (s.settings.unitOr lengthUnit).toUnit = .ok a.unit
  answer : (s.step st).2 = .ok (.adapter a)

theorem Keeps.refl (s : Session) : s.Keeps s := ⟨.around .same rfl, rfl⟩

theorem keeps_closeLogger (s : Session) (id : LoggerId) : s.Keeps (s.closeLogger id) := by
  rw [closeLogger]
  split
  · rename_i l hl
    exact ⟨.closed hl rfl rfl, rfl⟩
  · exact .refl s

theorem keeps_openLogger (s : Session) (name : Text) (o : LoggerOptions) :
    s.Keeps (s.openLogger name o).1 := by
  rw [openLogger]
  split
  · exact ⟨.opened (by assumption) rfl, rfl⟩
  · exact ⟨.notOpened (by assumption) rfl, rfl⟩

theorem keeps_adapterLogger (s : Session) (name : Text) (logger : Option Text) :
    s.Keeps (s.adapterLogger name logger).1 := by
  cases logger with
  | none => exact keeps_openLogger s _ _
  | some other =>
    rw [adapterLogger]
    split <;> exact ⟨.around .same rfl, rfl⟩

theorem perform_change {c : Adapter.Call} {a : Adapter} {id : LoggerId} {l l' : Logger} {w : World}
    {outcome : Except Failure Value} (hl : s.loggers[id]? = some l)
    (h : c.perform a l s.world = (w, l', outcome)) : s.Change (s.after id w l') := by
  rw [Adapter.Call.perform_eq] at h
  split at h
  · cases h
    rw [after_self hl]
    exact .around .same rfl
  · split at h
    all_goals
      rename_i hlog
      cases h
      exact .logged hl hlog rfl

theorem keeps_callStep (s : Session) (name : Text) (c : Adapter.Call) :
    s.Keeps (s.step (callStep name c)).1 := by
  rw [step_callStep, withAdapter]
  split
  · exact .refl s
  · rename_i a id l ha
    split
    · exact .refl s
    · exact ⟨perform_change (getElem?_of_adapter? ha).2 rfl, rfl⟩

theorem keeps_putFile (s : Session) (path content : Text) : s.Keeps (s.putFile path content).1 := by
  have hopened := DiskChange.opened (d := s.world.disk) path
  have hwritten (id : FileId) (octets : List UInt8) :=
    DiskChange.written (d := s.world.disk) path id octets
  rw [putFile]
  split <;> rename_i ho <;> simp only [ho] at hopened hwritten
  · exact ⟨.around hopened rfl, rfl⟩
  · split <;> exact ⟨.around (hwritten _ _) rfl, rfl⟩

theorem keeps_makeDirectory (s : Session) (path : Text) : s.Keeps (s.makeDirectory path).1 := by
  have hmade := DiskChange.made (d := s.world.disk) path
  rw [makeDirectory]
  split <;> rename_i hm <;> rw [hm] at hmade <;> exact ⟨.around hmade rfl, rfl⟩

theorem step_keeps {st : Step} (h : st.isSingle)
    (hopen : ∀ name logger lengthUnit warnUnrestricted,
      st ≠ .openAdapter name logger lengthUnit warnUnrestricted) : s.Keeps (s.step st).1 := by
  cases st with
  | within => cases h
  | openAdapter => exact absurd rfl (hopen _ _ _ _)
  | toHost name path => exact keeps_callStep s name (.toHost path)
  | toClient name path => exact keeps_callStep s name (.toClient path)
  | nullTerminated name path => exact keeps_callStep s name (.nullTerminated path)
  | adapterLength name path => exact keeps_callStep s name (.length path)
  | makeDirectory path =>
    rw [step]
    exact keeps_makeDirectory s path
  | putFile path content =>
    rw [step]
    exact keeps_putFile s path content
  | removeFile path =>
    rw [step]
    cases hu : s.world.disk.unlink path with
    | ok d => exact ⟨.around (.removed hu) rfl, rfl⟩
    | error cause => exact .refl s
  | openLogger name o =>
    have ho := keeps_openLogger s name o
    rw [step]
    split <;> rename_i hr <;> rwa [hr] at ho
  | createLogger name request =>
    have ho := keeps_openLogger s name (request.complete s.configuration)
    rw [step]
    split <;> rename_i hr <;> rwa [hr] at ho
  | setLimit name limit =>
    rw [step]
    split
    · rename_i id l hl
      split
      · exact ⟨.limited limit (getElem?_of_logger? hl) rfl rfl, rfl⟩
      · exact .refl s
    · exact .refl s
  | log name level message context =>
    rw [step, log]
    split
    · exact .refl s
    · rename_i id l hl
      split
      · exact .refl s
      · split <;> exact ⟨.logged (getElem?_of_logger? hl) (by assumption) rfl, rfl⟩
  | closeLogger name =>
    rw [step]
    split
    · exact keeps_closeLogger s _
    · exact .refl s
  | closeAdapter name =>
    rw [step]
    split
    · exact keeps_closeLogger s _
    · exact .refl s
  | showLogger name =>
    rw [step]
    split <;> exact .refl s
  | setSettings lengthUnit warnUnrestricted =>
    rw [step]
    dsimp only
    split <;> exact ⟨.around .same rfl, rfl⟩
  | setClock | setEnvironment | showConfiguration | measure => exact ⟨.around .same rfl, rfl⟩

theorem openAdapter_change (name : Text) (logger : Option Text)
    (lengthUnit warnUnrestricted : Value) {st : Step}
    (hst : st = .openAdapter name logger lengthUnit warnUnrestricted) : s.Keeps (s.step st).1 ∨
    ∃ t name a id, s.Keeps t ∧ s.Makes st name a ∧
      (s.step st).1 = { t with adapters := (name, a, id) :: t.adapters } := by
  have hlogger := keeps_adapterLogger s name logger
  -- The step stands twice in the goal, so its result gets a name before it is opened.
  generalize hr : s.step st = r
  have h := hr
  rw [hst, step, openAdapter] at h
  split at h
  · subst h
    exact .inl (.refl s)
  split at h
  · subst h
    exact .inl (.refl s)
  split at h
  · subst h
    exact .inl (.refl s)
  rename_i u hu
  dsimp only at h
  split at h <;> rename_i ha <;> rw [ha] at hlogger <;> subst h
  · exact .inl hlogger
  · exact .inr ⟨_, _, _, _, hlogger, ⟨⟨_, _, _, hst, hu⟩, congrArg Prod.snd hr⟩, rfl⟩

/-- A single step changes at most one logger, or adds one, and no adapter but by making it. -/
theorem step_change {st : Step} (h : st.isSingle) : s.Keeps (s.step st).1 ∨
    ∃ t name a id, s.Keeps t ∧ s.Makes st name a ∧
      (s.step st).1 = { t with adapters := (name, a, id) :: t.adapters } := by
  by_cases hopen : ∃ name logger lengthUnit warnUnrestricted,
    st = .openAdapter name logger lengthUnit warnUnrestricted
  · obtain ⟨name, logger, lengthUnit, warnUnrestricted, hst⟩ := hopen
    exact openAdapter_change name logger lengthUnit warnUnrestricted hst
  · left
    apply step_keeps h
    intro name logger lengthUnit warnUnrestricted hst
    exact hopen ⟨name, logger, lengthUnit, warnUnrestricted, hst⟩

end Session

end DriveBridge
