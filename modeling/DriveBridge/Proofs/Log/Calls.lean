import DriveBridge.Log.Opening
import DriveBridge.Proofs.Disk.Change
import DriveBridge.Proofs.Log.Names

namespace DriveBridge

open Location Rotation

variable {p : Location} {d : Disk} {w w' : World} {l l' : Logger}

theorem Disk.openAfter_spec {made : Disk × Option Refusal} (hd : made.1.IsSound) {d' : Disk}
    {outcome : Except Refusal FileId} (h : Disk.openAfter p made = (d', outcome)) :
    d'.IsSound ∧ (∀ place, d'.octetsAt place = made.1.octetsAt place) ∧
      ∀ id, outcome = .ok id → d'.at? p.place = some (.file id) ∧ IsName p.fileName := by
  obtain ⟨d, refusal⟩ := made
  cases refusal with
  | some cause =>
    obtain ⟨rfl, rfl⟩ := h
    refine ⟨hd, fun _ => rfl, ?_⟩
    intro id hid
    cases hid
  | none =>
    rw [Disk.openAfter] at h
    split at h
    · rename_i ho
      obtain ⟨rfl, rfl⟩ := h
      obtain ⟨hs, ha, _, hoct⟩ := Disk.openFile_spec hd ho
      refine ⟨hs, hoct, ?_⟩
      intro id hid
      obtain rfl := Except.ok.inj hid
      obtain ⟨hl, hnode⟩ := Disk.openFile_eq_ok ho
      refine ⟨ha, isName_of_locate hd hl ?_⟩
      intro hdir
      rcases hnode with ⟨hf, _⟩ | ⟨hf, _⟩ <;> rw [hdir] at hf <;> cases hf
    · obtain ⟨rfl, rfl⟩ := h
      refine ⟨hd, fun _ => rfl, ?_⟩
      intro id hid
      cases hid

theorem Disk.openFile_of_openBelow {d' : Disk} {id : FileId} (h : d.openBelow p = (d', .ok id)) :
    (d.makeDirectories p.parent).1.openFile p = .ok (d', id) := by
  rw [Disk.openBelow] at h
  generalize d.makeDirectories p.parent = made at h ⊢
  obtain ⟨made, refusal⟩ := made
  cases refusal with
  | some cause => cases h
  | none =>
    rw [Disk.openAfter] at h
    split at h
    · cases h
      assumption
    · cases h

theorem Disk.eq_makeDirectories_of_openBelow {d' : Disk} {cause : Refusal}
    (h : d.openBelow p = (d', .error cause)) : d' = (d.makeDirectories p.parent).1 := by
  rw [Disk.openBelow] at h
  generalize d.makeDirectories p.parent = made at h ⊢
  obtain ⟨made, refusal⟩ := made
  cases refusal with
  | some other =>
    cases h
    rfl
  | none =>
    rw [Disk.openAfter] at h
    split at h
    · cases h
    · cases h
      rfl

namespace LoggerOptions

theorem make_cases {o : LoggerOptions} {outcome : Except LogError Logger}
    (h : o.make w = (w', outcome)) :
    (w'.disk = w.disk ∧ ∀ l, outcome = .ok l → l.path = none ∧ ∀ p, o.output ≠ .file p) ∨
    ∃ p opened, o.output = .file p ∧ w.disk.openBelow p = (w'.disk, opened) ∧
      ∀ l, outcome = .ok l → ∃ id, opened = .ok id ∧ l.path = some p ∧
        l.sink = some (.file id) ∧ l.keep = o.maxFiles := by
  rw [make] at h
  cases hlimit : o.limit? with
  | none =>
    rw [hlimit] at h
    obtain ⟨rfl, rfl⟩ := h
    left
    refine ⟨rfl, ?_⟩
    intro l hl
    cases hl
  | some limit =>
    rw [hlimit] at h
    cases hout : o.output with
    | none =>
      rw [hout] at h
      obtain ⟨rfl, rfl⟩ := h
      left
      refine ⟨rfl, ?_⟩
      intro l hl
      cases hl
      exact ⟨rfl, nofun⟩
    | stream name =>
      rw [hout] at h
      obtain ⟨rfl, rfl⟩ := h
      left
      refine ⟨rfl, ?_⟩
      intro l hl
      cases hl
      exact ⟨rfl, nofun⟩
    | file p =>
      rw [hout] at h
      dsimp only at h
      right
      split at h
      · rename_i d id hb
        obtain ⟨rfl, rfl⟩ := h
        refine ⟨p, .ok id, rfl, hb, ?_⟩
        intro l hl
        cases hl
        exact ⟨id, rfl, rfl, rfl, rfl⟩
      · rename_i d cause hb
        obtain ⟨rfl, rfl⟩ := h
        refine ⟨p, .error cause, rfl, hb, ?_⟩
        intro l hl
        cases hl

end LoggerOptions

theorem Rotation.find_of_isDue? {limit : Value} (h : isDue? p limit d = some true) :
    ∃ node, d.find p = .ok (some node) := by
  rw [isDue?] at h
  split at h
  · split at h
    · exact ⟨_, by assumption⟩
    · cases h
  · cases h

theorem Rotation.isDue?_of_file {limit : Value} {id : FileId}
    (h : d.find p = .ok (some (.file id))) (hlimit : limit.isTrue) :
    isDue? p limit d = (limit.bounds? (d.content id).length).map (!·) := by
  rw [isDue?, if_pos hlimit, h]
  rfl

theorem Rotation.bounds?_of_isDue? {limit : Value} {id : FileId} {due : Bool}
    (h : d.find p = .ok (some (.file id))) (hlimit : limit.isTrue)
    (hdue : isDue? p limit d = some due) :
    limit.bounds? (d.content id).length = some (!due) := by
  rw [isDue?_of_file h hlimit] at hdue
  obtain ⟨fits, hfits, rfl⟩ := Option.map_eq_some_iff.mp hdue
  rw [hfits, Bool.not_not]

namespace Logger

theorem makeRoom_cases {d' : Disk} {failure : Option LogError}
    (h : l.makeRoom d = (d', l', failure)) :
    (d' = d ∧ (l' = l ∨ l.keep.integer? = none ∧ l' = { l with sink := some .lost })) ∨
    ∃ p keep node, l.path = some p ∧ l.keep.integer? = some keep ∧
      d.find p = .ok (some node) ∧
      ((∃ id, (rotate p keep d).1.openFile p = .ok (d', id) ∧
          l' = { l with sink := some (.file id) }) ∨
        ∃ cause, (rotate p keep d).1.openFile p = .error cause ∧ d' = (rotate p keep d).1 ∧
          l' = { l with sink := some .lost }) := by
  rw [makeRoom] at h
  split at h
  · obtain ⟨rfl, rfl, _⟩ := h
    exact .inl ⟨rfl, .inl rfl⟩
  · rename_i p hp
    split at h
    · obtain ⟨rfl, rfl, _⟩ := h
      exact .inl ⟨rfl, .inl rfl⟩
    · obtain ⟨rfl, rfl, _⟩ := h
      exact .inl ⟨rfl, .inl rfl⟩
    · rename_i hk
      obtain ⟨rfl, rfl, _⟩ := h
      exact .inl ⟨rfl, .inr ⟨hk, rfl⟩⟩
    · rename_i keep hdue hk
      right
      obtain ⟨node, hf⟩ := find_of_isDue? hdue
      refine ⟨p, keep, node, hp, hk, hf, ?_⟩
      dsimp only at h
      split at h
      · rename_i ho
        obtain ⟨rfl, rfl, _⟩ := h
        exact .inl ⟨_, ho, rfl⟩
      · rename_i ho
        obtain ⟨rfl, rfl, _⟩ := h
        exact .inr ⟨_, ho, rfl, rfl⟩

theorem makeRoom_eq_none (hpath : l.path = some p) {d' : Disk}
    (h : l.makeRoom d = (d', l', none)) :
    isDue? p l.limit d = some false ∧ d' = d ∧ l' = l ∨
    ∃ keep id, isDue? p l.limit d = some true ∧ l.keep.integer? = some keep ∧
      (rotate p keep d).1.openFile p = .ok (d', id) ∧ l' = { l with sink := some (.file id) } := by
  rw [makeRoom] at h
  split at h
  · rename_i hnone
    cases hpath.symm.trans hnone
  rename_i q hq
  obtain rfl : p = q := Option.some.inj (hpath.symm.trans hq)
  split at h
  · cases h
  · obtain ⟨rfl, rfl, _⟩ := h
    exact .inl ⟨by assumption, rfl, rfl⟩
  · cases h
  · rename_i keep hdue hkeep
    right
    dsimp only at h
    split at h
    · rename_i e id hopen
      obtain ⟨rfl, rfl, _⟩ := h
      exact ⟨keep, id, hdue, hkeep, hopen, rfl⟩
    · cases h

theorem disk_console (l : Logger) (t : Text) (w : World) :
    (if l.console.isTrue then w.print t else w).disk = w.disk := by
  split
  · rfl
  · rfl

theorem deliver_cases {line : Text} {failure : Option LogError}
    (h : l.deliver line w = (w', l', failure)) :
    (w'.disk = w.disk ∧ l' = l ∧ l.sink = none) ∨
    ∃ d room, l.makeRoom w.disk = (d, l', room) ∧
      ((w'.disk = d ∧ (failure.isSome ∨ l'.sink = none ∨ ∃ name, l'.sink = some (.stream name))) ∨
        ∃ id, l'.sink = some (.file id) ∧ failure = none ∧
          w'.disk = d.append id (Utf8.encode (line ++ [CodePoint.newline]))) := by
  have hw := l.disk_console (line ++ [CodePoint.newline]) w
  rw [deliver] at h
  dsimp only at h
  rw [hw] at h
  split at h
  · rename_i hs
    obtain ⟨rfl, rfl, _⟩ := h
    exact .inl ⟨hw, rfl, Option.isNone_iff_eq_none.mp hs⟩
  right
  split at h
  · rename_i hm
    obtain ⟨rfl, rfl, rfl⟩ := h
    exact ⟨_, _, hm, .inl ⟨rfl, .inl rfl⟩⟩
  · rename_i d room hm
    obtain ⟨rfl, rfl, rfl⟩ := h
    refine ⟨d, none, hm, ?_⟩
    rw [put]
    split
    · rename_i hs
      exact .inl ⟨rfl, .inr (.inl hs)⟩
    · rename_i name hs
      exact .inl ⟨rfl, .inr (.inr ⟨name, hs⟩)⟩
    · rename_i id hs
      exact .inr ⟨id, hs, rfl, rfl⟩
    · exact .inl ⟨rfl, .inl rfl⟩

section

variable {level : Level} {message : Value} {context : List (Value × Value)} {line : Text}
  (hline : l.line w.now level message context = .ok line) (hopen : l.sink.isSome)
include hline hopen

theorem log_of_room {id : FileId} (hm : l.makeRoom w.disk = (d, l', none))
    (hid : l'.sink = some (.file id)) :
    ∃ w', l.log level message context w = (w', l', none) ∧
      w'.disk = d.append id (Utf8.encode (line ++ [CodePoint.newline])) := by
  have hsink : l.sink.isNone = false := Option.isNone_eq_false_iff.mpr hopen
  let printed := if l.console.isTrue then w.print (line ++ [CodePoint.newline]) else w
  exists { printed with disk := d.append id (Utf8.encode (line ++ [CodePoint.newline])) }
  constructor
  · rw [log, hline]
    dsimp only
    rw [deliver, hsink, if_neg Bool.false_ne_true, l.disk_console, hm]
    dsimp only
    rw [put, hid]
  · rfl

theorem log_of_no_room {cause : LogError} (hm : l.makeRoom w.disk = (d, l', some cause)) :
    (l.log level message context w).2.2 = some cause := by
  have hsink : l.sink.isNone = false := Option.isNone_eq_false_iff.mpr hopen
  rw [log, hline]
  dsimp only
  rw [deliver, hsink, if_neg Bool.false_ne_true, l.disk_console, hm]

end

/-- What a call can do to the disk and to its logger. -/
theorem log_cases {level : Level} {message : Value} {context : List (Value × Value)}
    {failure : Option LogError} (h : l.log level message context w = (w', l', failure)) :
    (w'.disk = w.disk ∧ l' = l) ∨
    ∃ d room, l.makeRoom w.disk = (d, l', room) ∧
      (w'.disk = d ∨ ∃ id octets, l'.sink = some (.file id) ∧ w'.disk = d.append id octets) := by
  rw [log] at h
  split at h
  · rcases deliver_cases h with ⟨hw, hl, _⟩ | ⟨d, room, hm, ⟨hw, _⟩ | ⟨id, hid, _, hw⟩⟩
    · exact .inl ⟨hw, hl⟩
    · exact .inr ⟨d, room, hm, .inl hw⟩
    · exact .inr ⟨d, room, hm, .inr ⟨id, _, hid, hw⟩⟩
  · cases h
    exact .inl ⟨rfl, rfl⟩

end Logger

end DriveBridge
